import SceneGraph.Plugin.Inspect

/-!
# Plugins for what stands in a scene

Shapes and emitters. A shape takes every bsdf and emitter it is given; how many it should
have is checked with the whole scene.
-/

namespace SceneGraph.Plugin

open SceneGraph.Geometry Inspect

/-! ## Emitters -/

def directionalSettings : Inspect EmitterKind := do
  let direction ← requiredVector "direction" Vec3.negUnitZ
  forbid (direction.lengthSquared == 0) .zeroDirection
  let irradiance ← spectrum "irradiance" Vec3.one
  return .directional direction.normalizeOrZero irradiance

def pointSettings : Inspect EmitterKind := do
  let position ← point "position" Vec3.zero
  let intensity ← spectrum "intensity" Vec3.one
  return .point position intensity

def envmapSettings : Inspect EmitterKind := do
  let filename ← requiredText "filename" ""
  let scale ← float "scale" 1
  forbid (scale < 0) (.negative "scale" scale)
  let toWorld ← transform "to_world"
  return .envmap filename scale toWorld

def emitterPlugin (type : String) (settings : Inspect EmitterKind) : Plugin where
  kind := .emitter
  type := type
  accepts := []
  build _ := do
    let kind ← settings
    return some (.object (.emitter ⟨(← node).id, kind⟩))

/-! ## Shapes -/

def meshSettings (format : MeshFormat) : Inspect Surface := do
  let filename ← requiredText "filename" ""
  let faceNormals ← boolean "face_normals" false
  return .mesh format filename faceNormals

def sphereSettings : Inspect Surface := do
  let radius ← float "radius" 1
  forbid (radius ≤ 0) (.notPositive "radius" radius)
  let center ← point "center" Vec3.zero
  return .sphere center radius

/-- The volumes on the two sides of a surface. -/
structure Sides where
  interior : Option VolumeHandle
  exterior : Option VolumeHandle

/-- Puts volumes where their names say. Of two volumes for one side the later one is kept,
and the repetition reported. -/
def placeVolumes (sides : Sides) : List (Attachment × VolumeHandle) → Inspect Sides
  | [] => pure sides
  | (item, handle) :: rest => do
    if item.name = some "interior" then
      forbid sides.interior.isSome (.repeatedVolume "interior")
      placeVolumes { sides with interior := some handle } rest
    else if item.name = some "exterior" then
      forbid sides.exterior.isSome (.repeatedVolume "exterior")
      placeVolumes { sides with exterior := some handle } rest
    else
      report (.typeMismatch item.location (item.name.getD "volume") .slottedVolume .unslottedVolume)
      placeVolumes sides rest

def shapePlugin (type : String) (settings : Inspect Surface) : Plugin where
  kind := .shape
  type := type
  accepts := [.bsdf, .emitter, .volume]
  build children := do
    let surface ← settings
    let toWorld ← transform "to_world"
    let flipNormals ← boolean "flip_normals" false
    let sides ← placeVolumes ⟨none, none⟩ children.volumes
    return some (.object (.shape
      ⟨← node, surface, toWorld, flipNormals, children.bsdfs, children.emitters, sides.interior,
        sides.exterior⟩))

def bodyPlugins : List Plugin :=
  [emitterPlugin "constant" (do return .constant (← spectrum "radiance" Vec3.one)),
   emitterPlugin "point" pointSettings,
   emitterPlugin "directional" directionalSettings,
   emitterPlugin "envmap" envmapSettings,
   emitterPlugin "area" (do return .area (← spectrum "radiance" Vec3.one)),
   shapePlugin "ply" (meshSettings .ply),
   shapePlugin "obj" (meshSettings .obj),
   shapePlugin "sphere" sphereSettings,
   shapePlugin "rectangle" (pure .rectangle),
   shapePlugin "cube" (pure .cube),
   shapePlugin "disk" (pure .disk)]

end SceneGraph.Plugin
