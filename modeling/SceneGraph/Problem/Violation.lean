import SceneGraph.Decimal.Layout
import SceneGraph.Kind

/-!
# Rules that a node can break

Values are kept as they were found; the wording is `Violation.message`.
-/

namespace SceneGraph

inductive Violation where
  /-- A property that must be above zero. -/
  | notPositive (property : String) (value : Float32)
  /-- A property that must not be below zero. -/
  | negative (property : String) (value : Float32)
  /-- A property that must lie between zero and one. -/
  | outsideUnit (property : String) (value : Float32)
  | fovRange (fov : Float32)
  | unknownFovAxis (axis : String)
  | clipOrder (far near : Float32)
  | notAffine
  | unsupportedFormat (property value : String)
  | severalFilters (count : Nat)
  | maxDepth (value : Int)
  | rouletteDepth (value : Int)
  | negativeCount (property : String) (value : Int)
  | negativeExtinction
  | albedoRange
  | zeroDirection
  | repeatedVolume (slot : String)
  | sideCount (count : Nat)
  | unknownRefraction (material : String)
  | unusedProperty (property : String)
  | severalIntegrators
  | unownedNode (kind : NodeKind)
  | unattachedArea
  | samplerCount (count : Nat)
  | filmCount (count : Nat)
  /-- A property that must be a positive 32 bit integer. -/
  | notPositiveCount (property : String) (value : Int)
  | seedRange (value : Int)
  | noBsdf
  | severalBsdfs (count : Nat)
  | attachedEmitterKind
  | severalEmitters (count : Nat)
deriving DecidableEq

namespace Violation

/-- Messages write numbers in positions and whole numbers without a point. -/
def layout : Decimal.Layout := ⟨fun _ => true, false, false, .up⟩

def number (x : Float32) : String := layout.write x

/-- The kind of node that a node of another kind belongs into. -/
def owner : NodeKind → NodeKind
  | .filter => .film
  | _ => .sensor

def message : Violation → String
  | notPositive p x => s!"{p} must be positive, found {number x}"
  | negative p x => s!"{p} must be non-negative, found {number x}"
  | outsideUnit p x => s!"{p} must be in [0, 1], found {number x}"
  | fovRange x => s!"fov must be in (0, 180) degrees, found {number x}"
  | unknownFovAxis axis =>
    s!"fov_axis must be one of x, y, diagonal, smaller, larger; found \"{axis}\""
  | clipOrder far near =>
    s!"far_clip ({number far}) must be greater than near_clip ({number near})"
  | notAffine => "to_world must be an affine transform"
  | unsupportedFormat p v => s!"unsupported {p} \"{v}\""
  | severalFilters n => s!"a film takes at most one rfilter, found {n}"
  | maxDepth n => s!"max_depth must be -1 (unbounded) or non-negative, found {n}"
  | rouletteDepth n => s!"rr_depth must be positive, found {n}"
  | negativeCount p n => s!"'{p}' must be a non-negative integer, found {n}"
  | negativeExtinction => "sigma_t must be non-negative"
  | albedoRange => "albedo must be in [0, 1]"
  | zeroDirection => "direction must be a non-zero vector"
  | repeatedVolume slot => s!"more than one {slot} volume"
  | sideCount n => s!"twosided takes one or two nested bsdfs, found {n}"
  | unknownRefraction m => s!"unknown index of refraction \"{m}\""
  | unusedProperty p => s!"property '{p}' is not used by this plugin"
  | severalIntegrators => "a scene takes at most one integrator"
  | unownedNode k => s!"an anonymous {k.name} must be nested inside a {(owner k).name}"
  | unattachedArea => "area emitters must be attached to a shape"
  | samplerCount n => s!"a sensor needs exactly one sampler, found {n}"
  | filmCount n => s!"a sensor needs exactly one film, found {n}"
  | notPositiveCount p n => s!"{p} must be a positive integer, found {n}"
  | seedRange n => s!"seed must be a non-negative integer, found {n}"
  | noBsdf => "shape has no bsdf"
  | severalBsdfs n => s!"shape has {n} bsdfs, expected exactly one"
  | attachedEmitterKind => "only area emitters can be attached to a shape"
  | severalEmitters n => s!"shape has {n} emitters, expected at most one"

end Violation

end SceneGraph
