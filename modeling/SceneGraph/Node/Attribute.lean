import SceneGraph.Checked
import SceneGraph.Markup.Element
import SceneGraph.Parameter.Table

/-!
# Attributes of an element

Attribute values are substituted before anything else is made of them. A vector is written
either in one attribute or in the attributes `x`, `y` and `z`.
-/

namespace SceneGraph

open SceneGraph.Geometry Markup

/-- The problem of a text that is no literal, for the property of the element at `l`. -/
def Literal.Fault.problem (fault : Literal.Fault) (l : Location) (property : String) : Problem :=
  match fault with
  | .mismatch expected found => .typeMismatch l property (.kind (.literal expected)) found
  | fault => .malformed l (.literal property fault)

namespace Attribute

variable (params : Parameter.Table) (e : Element)

/-- The substituted value of an attribute that may be absent. -/
def value? (name : String) : Checked (Option String) :=
  match e.attribute? name with
  | none => .of none
  | some raw => .ofExcept (some <$> params.resolve raw e.location)

/-- The substituted value of an attribute, or the fault of not having it. -/
def required (name : String) (absent : Malformed) : Checked String := do
  match ← value? params e name with
  | some value => .of value
  | none => .fail (.malformed e.location absent)

/-- What a reader makes of a text, for a property of this element. -/
def checkLiteral {α : Type} (property : String) : Except Literal.Fault α → Checked α
  | .ok a => .of a
  | .error fault => .fail (fault.problem e.location property)

/-- One coordinate; `fill` if it is absent. -/
def coordinate (fill : Float32) (kind : LiteralKind) (property axis : String) :
    Checked Float32 := do
  match ← value? params e axis with
  | none => .of fill
  | some raw =>
    checkLiteral e property ((Literal.readFloat raw.toList).mapError (Literal.Fault.within kind))

/-- The vector in the attributes `x`, `y` and `z`. -/
def coordinates (fill : Float32) (kind : LiteralKind) (property : String) : Checked Vec3 := do
  let x ← coordinate params e fill kind property "x"
  let y ← coordinate params e fill kind property "y"
  let z ← coordinate params e fill kind property "z"
  return ⟨x, y, z⟩

/-- The vector in one attribute, or else in the attributes `x`, `y` and `z`. -/
def vector (name property : String) : Checked Vec3 := do
  match ← value? params e name with
  | some raw => checkLiteral e property (Literal.readTriple .vector raw.toList)
  | none => coordinates params e 0 .vector property

end Attribute

end SceneGraph
