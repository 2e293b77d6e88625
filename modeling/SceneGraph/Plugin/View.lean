import SceneGraph.Plugin.Inspect

/-!
# Plugins for how a scene is seen

Integrators, sensors, and the samplers, films and filters that sensors are made of. Counts
and sizes are taken as they stand; they are checked with the whole scene.
-/

namespace SceneGraph.Plugin

open SceneGraph.Geometry Inspect

/-- The settings that both path tracers share. -/
def pathSettings (make : Int → Int → Bool → IntegratorKind) : Inspect IntegratorKind := do
  let maxDepth ← integer "max_depth" (-1)
  let rrDepth ← integer "rr_depth" 5
  let hideEmitters ← boolean "hide_emitters" false
  forbid (maxDepth < -1) (.maxDepth maxDepth)
  forbid (rrDepth ≤ 0) (.rouletteDepth rrDepth)
  return make maxDepth rrDepth hideEmitters

/-- Both counts default to the common one. -/
def directSettings : Inspect IntegratorKind := do
  let shading ← count "shading_samples" 1
  let emitterSamples ← count "emitter_samples" shading
  let bsdfSamples ← count "bsdf_samples" shading
  let hideEmitters ← boolean "hide_emitters" false
  return .direct emitterSamples bsdfSamples hideEmitters

def integratorPlugin (type : String) (settings : Inspect IntegratorKind) : Plugin where
  kind := .integrator
  type := type
  accepts := []
  build _ := do
    let kind ← settings
    return some (.object (.integrator ⟨(← node).id, kind⟩))

def perspectiveSettings : Inspect SensorKind := do
  let fov ← float "fov" 39.3077
  forbid (!(0 < fov && fov < 180)) (.fovRange fov)
  let name ← text "fov_axis" "x"
  let axis := FovAxis.ofName? name
  forbid axis.isNone (.unknownFovAxis name)
  let x ← float "principal_point_offset_x" 0
  let y ← float "principal_point_offset_y" 0
  return .perspective fov (axis.getD .x) ⟨x, y⟩

def sensorPlugin (type : String) (settings : Inspect SensorKind) : Plugin where
  kind := .sensor
  type := type
  accepts := [.sampler, .film]
  build children := do
    let kind ← settings
    let near ← float "near_clip" 0.01
    let far ← float "far_clip" 10000
    forbid (near ≤ 0) (.notPositive "near_clip" near)
    forbid (far ≤ near) (.clipOrder far near)
    let toWorld ← transform "to_world"
    forbid (!toWorld.isAffine) .notAffine
    return some (.object (.sensor
      ⟨← node, kind, near, far, toWorld, children.samplers, children.films⟩))

def samplerPlugin (type : String) (kind : SamplerKind) : Plugin where
  kind := .sampler
  type := type
  accepts := []
  build _ := do
    let sampleCount ← integer "sample_count" 4
    let seed ← integer "seed" 0
    return some (.object (.sampler ⟨← node, kind, sampleCount, seed⟩))

def pixelFormats : List String := ["rgb", "rgba", "luminance", "luminance_alpha", "xyz", "xyza"]

def componentFormats : List String := ["float16", "float32", "uint32"]

/-- The name of a format out of a list. -/
def formatName (property default : String) (formats : List String) : Inspect String := do
  let name ← text property default
  forbid (!formats.contains name) (.unsupportedFormat property name)
  return name

def filmPlugin : Plugin where
  kind := .film
  type := "hdrfilm"
  accepts := [.filter]
  build children := do
    let width ← integer "width" 768
    let height ← integer "height" 576
    let pixelFormat ← formatName "pixel_format" "rgb" pixelFormats
    let componentFormat ← formatName "component_format" "float16" componentFormats
    let filters := children.filters
    forbid (1 < filters.length) (.severalFilters filters.length)
    return some (.object (.film
      ⟨← node, width, height, pixelFormat, componentFormat, filters.head?.getD Filter.usual⟩))

def gaussianSettings : Inspect Filter := do
  let stddev ← float "stddev" 0.5
  forbid (stddev ≤ 0) (.notPositive "stddev" stddev)
  return .gaussian stddev

def filterPlugin (type : String) (settings : Inspect Filter) : Plugin where
  kind := .filter
  type := type
  accepts := []
  build _ := do
    let filter ← settings
    return some (.object (.filter filter))

def viewPlugins : List Plugin :=
  [integratorPlugin "path" (pathSettings .path),
   integratorPlugin "volpath" (pathSettings .volPath),
   integratorPlugin "direct" directSettings,
   sensorPlugin "perspective" perspectiveSettings,
   sensorPlugin "orthographic" (pure .orthographic),
   samplerPlugin "independent" .independent,
   samplerPlugin "stratified" .stratified,
   samplerPlugin "multijitter" .multijitter,
   samplerPlugin "ldsampler" .lowDiscrepancy,
   filmPlugin,
   filterPlugin "box" (pure .box),
   filterPlugin "tent" (pure .tent),
   filterPlugin "gaussian" gaussianSettings]

end SceneGraph.Plugin
