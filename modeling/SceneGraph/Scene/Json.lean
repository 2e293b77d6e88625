import SceneGraph.Json
import SceneGraph.Literal
import SceneGraph.Scene.Basic

/-!
# Scenes in JSON

Alternatives carry their name in a field `type` in front of their own fields, vectors and
matrices are arrays, handles are numbers, and what is absent is `null`.
-/

namespace SceneGraph

open SceneGraph.Geometry

namespace Json

def nat (n : Nat) : Json := .int n

def optionalText (s : Option String) : Json := ofOption .str s

def floats (xs : List Float32) : Json := .arr (xs.map .float)

/-- An alternative with its name. -/
def tagged (name : String) (fields : List (String × Json)) : Json :=
  .obj (("type", .str name) :: fields)

end Json

def Geometry.Vec2.toJson (v : Vec2) : Json := Json.floats [v.x, v.y]

def Geometry.Vec3.toJson (v : Vec3) : Json := Json.floats v.toList

def Geometry.Mat4.toJson (m : Mat4) : Json := Json.floats m.toList

def Location.toJson (l : Location) : Json :=
  .obj [("line", .nat l.line), ("column", .nat l.column)]

def Version.toJson (v : Version) : Json :=
  .obj [("major", .nat v.major), ("minor", .nat v.minor), ("patch", .nat v.patch)]

/-- A value with its kind. -/
def Value.toJson (v : Value) : Json :=
  .obj [("kind", .str v.kind.name),
    ("value", match v with
      | .integer n => .int n
      | .float x => .float x
      | .boolean b => .bool b
      | .text s => .str s
      | .rgb v | .point v | .vector v => v.toJson
      | .transform m => m.toJson)]

def BsdfHandle.toJson (h : BsdfHandle) : Json := .nat h.index

def VolumeHandle.toJson (h : VolumeHandle) : Json := .nat h.index

def IntegratorKind.toJson : IntegratorKind → Json
  | path maxDepth rrDepth hide => .tagged "path" (tracer maxDepth rrDepth hide)
  | volPath maxDepth rrDepth hide => .tagged "vol_path" (tracer maxDepth rrDepth hide)
  | direct emitterSamples bsdfSamples hide =>
    .tagged "direct"
      [("emitter_samples", .nat emitterSamples), ("bsdf_samples", .nat bsdfSamples),
       ("hide_emitters", .bool hide)]
where
  tracer (maxDepth rrDepth : Int) (hide : Bool) : List (String × Json) :=
    [("max_depth", .int maxDepth), ("rr_depth", .int rrDepth), ("hide_emitters", .bool hide)]

def Integrator.toJson (i : Integrator) : Json :=
  .obj [("id", .optionalText i.id), ("kind", i.kind.toJson)]

def SensorKind.toJson : SensorKind → Json
  | perspective fov axis offset =>
    .tagged "perspective"
      [("fov", .float fov), ("fov_axis", .str axis.name),
       ("principal_point_offset", offset.toJson)]
  | orthographic => .tagged "orthographic" []

def SamplerKind.jsonName : SamplerKind → String
  | independent => "independent"
  | stratified => "stratified"
  | multijitter => "multijitter"
  | lowDiscrepancy => "ld_sampler"

def Sampler.toJson (s : Sampler) : Json :=
  .obj [("kind", .str s.kind.jsonName), ("sample_count", .nat s.sampleCount),
    ("seed", .nat s.seed)]

def Filter.toJson : Filter → Json
  | box => .tagged "box" []
  | tent => .tagged "tent" []
  | gaussian stddev => .tagged "gaussian" [("stddev", .float stddev)]

def Film.toJson (f : Film) : Json :=
  .obj [("width", .nat f.width), ("height", .nat f.height), ("pixel_format", .str f.pixelFormat),
    ("component_format", .str f.componentFormat), ("rfilter", f.filter.toJson)]

def Sensor.toJson (s : Sensor) : Json :=
  .obj [("id", .optionalText s.id), ("kind", s.kind.toJson), ("near_clip", .float s.nearClip),
    ("far_clip", .float s.farClip), ("to_world", s.toWorld.toJson),
    ("sampler", s.sampler.toJson), ("film", s.film.toJson)]

def Principled.fields (p : Principled) : List (String × Json) :=
  [("base_color", p.baseColor.toJson), ("metallic", .float p.metallic),
   ("specular", .float p.specular), ("spec_tint", .float p.specTint),
   ("roughness", .float p.roughness), ("anisotropic", .float p.anisotropic),
   ("sheen", .float p.sheen), ("sheen_tint", .float p.sheenTint),
   ("clearcoat", .float p.clearcoat), ("clearcoat_gloss", .float p.clearcoatGloss),
   ("spec_trans", .float p.specTrans), ("eta", .float p.eta)]

def Bsdf.toJson : Bsdf → Json
  | diffuse reflectance => .tagged "diffuse" [("reflectance", reflectance.toJson)]
  | twoSided front back =>
    .tagged "two_sided" [("front", front.toJson), ("back", Json.ofOption BsdfHandle.toJson back)]
  | principled p => .tagged "principled" p.fields
  | dielectric intIor extIor =>
    .tagged "dielectric" [("int_ior", .float intIor), ("ext_ior", .float extIor)]
  | conductor material eta k =>
    .tagged "conductor"
      [("material", .str material), ("eta", Json.ofOption Vec3.toJson eta),
       ("k", Json.ofOption Vec3.toJson k)]
  | plastic reflectance intIor extIor =>
    .tagged "plastic"
      [("diffuse_reflectance", reflectance.toJson), ("int_ior", .float intIor),
       ("ext_ior", .float extIor)]

def BsdfEntry.toJson (e : BsdfEntry) : Json :=
  .obj [("id", .optionalText e.id), ("bsdf", e.bsdf.toJson)]

def EmitterKind.toJson : EmitterKind → Json
  | constant radiance => .tagged "constant" [("radiance", radiance.toJson)]
  | point position intensity =>
    .tagged "point" [("position", position.toJson), ("intensity", intensity.toJson)]
  | directional direction irradiance =>
    .tagged "directional" [("direction", direction.toJson), ("irradiance", irradiance.toJson)]
  | envmap filename scale toWorld =>
    .tagged "envmap"
      [("filename", .str filename), ("scale", .float scale), ("to_world", toWorld.toJson)]
  | area radiance => .tagged "area" [("radiance", radiance.toJson)]

def Emitter.toJson (e : Emitter) : Json :=
  .obj [("id", .optionalText e.id), ("kind", e.kind.toJson)]

def Surface.toJson : Surface → Json
  | mesh format filename faceNormals =>
    .tagged "mesh"
      [("format", .str format.name), ("filename", .str filename),
       ("face_normals", .bool faceNormals)]
  | sphere center radius =>
    .tagged "sphere" [("center", center.toJson), ("radius", .float radius)]
  | rectangle => .tagged "rectangle" []
  | cube => .tagged "cube" []
  | disk => .tagged "disk" []

def Shape.toJson (s : Shape) : Json :=
  .obj [("id", .optionalText s.id), ("geometry", s.surface.toJson),
    ("to_world", s.toWorld.toJson), ("flip_normals", .bool s.flipNormals),
    ("bsdf", s.bsdf.toJson), ("emitter", Json.ofOption Emitter.toJson s.emitter),
    ("interior", Json.ofOption VolumeHandle.toJson s.interior),
    ("exterior", Json.ofOption VolumeHandle.toJson s.exterior), ("location", s.location.toJson)]

def Volume.toJson : Volume → Json
  | homogeneous sigmaT albedo scale =>
    .tagged "homogeneous"
      [("sigma_t", sigmaT.toJson), ("albedo", albedo.toJson), ("scale", .float scale)]

def VolumeEntry.toJson (e : VolumeEntry) : Json :=
  .obj [("id", .optionalText e.id), ("volume", e.volume.toJson)]

def Scene.toJson (s : Scene) : Json :=
  .obj [("version", s.version.toJson),
    ("parameters", .obj (s.parameters.map fun (k, v) => (k, .str v))),
    ("integrator", Json.ofOption Integrator.toJson s.integrator),
    ("sensors", .arr (s.sensors.map Sensor.toJson)),
    ("bsdfs", .arr (s.bsdfs.map BsdfEntry.toJson)),
    ("emitters", .arr (s.emitters.map Emitter.toJson)),
    ("shapes", .arr (s.shapes.map Shape.toJson)),
    ("volumes", .arr (s.volumes.map VolumeEntry.toJson))]

end SceneGraph
