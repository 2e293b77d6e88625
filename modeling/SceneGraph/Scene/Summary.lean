import SceneGraph.Decimal.Layout
import SceneGraph.Scene.Query
import SceneGraph.Text.Quoted

/-!
# Scenes as readable text

A summary lists what a scene holds, one object to a line. Values that have fields are shown
with the names of their types and fields.
-/

namespace SceneGraph

open SceneGraph.Geometry

namespace Shown

/-- Shown numbers keep a point, and take an exponent outside `1e-4` to `1e16`. -/
def layout : Decimal.Layout := ⟨fun e => -4 ≤ e && e ≤ 15, true, false, .up⟩

def number (x : Float32) : String := layout.write x

def tuple (name : String) (parts : List String) : String :=
  name ++ "(" ++ ", ".intercalate parts ++ ")"

def record (name : String) (fields : List (String × String)) : String :=
  s!"{name} \x7b " ++ ", ".intercalate (fields.map fun (k, v) => s!"{k}: {v}") ++ " \x7d"

def optional {α : Type} (f : α → String) : Option α → String
  | none => "None"
  | some a => tuple "Some" [f a]

def vec3 (v : Vec3) : String := tuple "Vec3" (v.toList.map number)

def vec4 (v : Vec4) : String := tuple "Vec4" (v.toList.map number)

def matrix (m : Mat4) : String :=
  record "Mat4"
    [("x_axis", vec4 m.xAxis), ("y_axis", vec4 m.yAxis), ("z_axis", vec4 m.zAxis),
     ("w_axis", vec4 m.wAxis)]

def handle (h : BsdfHandle) : String := tuple "BsdfHandle" [toString h.index]

def integrator : IntegratorKind → String
  | .path maxDepth rrDepth hide => record "Path" (tracer maxDepth rrDepth hide)
  | .volPath maxDepth rrDepth hide => record "VolPath" (tracer maxDepth rrDepth hide)
  | .direct emitterSamples bsdfSamples hide =>
    record "Direct"
      [("emitter_samples", toString emitterSamples), ("bsdf_samples", toString bsdfSamples),
       ("hide_emitters", toString hide)]
where
  tracer (maxDepth rrDepth : Int) (hide : Bool) : List (String × String) :=
    [("max_depth", toString maxDepth), ("rr_depth", toString rrDepth),
     ("hide_emitters", toString hide)]

def principled (p : Principled) : String :=
  record "Principled"
    [("base_color", vec3 p.baseColor), ("metallic", number p.metallic),
     ("specular", number p.specular), ("spec_tint", number p.specTint),
     ("roughness", number p.roughness), ("anisotropic", number p.anisotropic),
     ("sheen", number p.sheen), ("sheen_tint", number p.sheenTint),
     ("clearcoat", number p.clearcoat), ("clearcoat_gloss", number p.clearcoatGloss),
     ("spec_trans", number p.specTrans), ("eta", number p.eta)]

def bsdf : Bsdf → String
  | .diffuse reflectance => record "Diffuse" [("reflectance", vec3 reflectance)]
  | .twoSided front back =>
    record "TwoSided" [("front", handle front), ("back", optional handle back)]
  | .principled p => tuple "Principled" [principled p]
  | .dielectric intIor extIor =>
    record "Dielectric" [("int_ior", number intIor), ("ext_ior", number extIor)]
  | .conductor material eta k =>
    record "Conductor"
      [("material", Text.quoted material), ("eta", optional vec3 eta), ("k", optional vec3 k)]
  | .plastic reflectance intIor extIor =>
    record "Plastic"
      [("diffuse_reflectance", vec3 reflectance), ("int_ior", number intIor),
       ("ext_ior", number extIor)]

def emitter : EmitterKind → String
  | .constant radiance => record "Constant" [("radiance", vec3 radiance)]
  | .point position intensity =>
    record "Point" [("position", vec3 position), ("intensity", vec3 intensity)]
  | .directional direction irradiance =>
    record "Directional" [("direction", vec3 direction), ("irradiance", vec3 irradiance)]
  | .envmap filename scale toWorld =>
    record "Envmap"
      [("filename", Text.quoted filename), ("scale", number scale), ("to_world", matrix toWorld)]
  | .area radiance => record "Area" [("radiance", vec3 radiance)]

/-- An id, or what stands for none. -/
def name (id : Option String) : String := id.getD "<anonymous>"

end Shown

namespace Scene

open Shown

/-- A heading, and the lines below it. -/
def titled (title : String) (lines : List String) : List String :=
  "" :: s!"--- {title} ---" :: lines.map ("  " ++ ·)

/-- A section that is left out when it is empty. -/
def sectionUnlessEmpty (title : String) (lines : List String) : List String :=
  if lines.isEmpty then [] else titled title lines

def sensorLine (s : Sensor) : String :=
  let place := ", ".intercalate (s.origin.toList.map (Decimal.fixed 2))
  s!"{name s.id} at ({place}) - {s.film.width}x{s.film.height}, {s.sampler.sampleCount} spp"

variable (scene : Scene)

def shapeLine (s : Shape) : String :=
  let file := match s.meshPath? with
    | some path => s!" [{path}]"
    | none => ""
  let bsdf := (scene.bsdfId? s).getD "<inline bsdf>"
  s!"{name s.id} -> {bsdf}{file}"

/-- What a scene holds, line by line. -/
def summaryLines : List String :=
  [s!"=== Scene (version {scene.version.text}) ==="] ++
    sectionUnlessEmpty "Parameters" (scene.parameters.map fun (k, v) => s!"{k} = {v}") ++
    (match scene.integrator with
      | some i => ["", s!"Integrator: {Shown.integrator i.kind}"]
      | none => []) ++
    titled s!"Sensors ({scene.sensors.length})" (scene.sensors.map sensorLine) ++
    titled "Materials" (scene.namedBsdfs.map fun (id, b) => s!"{id}: {bsdf b}") ++
    titled s!"Shapes ({scene.shapes.length})" (scene.shapes.map scene.shapeLine) ++
    sectionUnlessEmpty "Emitters" (scene.emitters.map fun e => s!"{name e.id}: {emitter e.kind}")

def summary : String := String.join (scene.summaryLines.map (· ++ "\n"))

end Scene

end SceneGraph
