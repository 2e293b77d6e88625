import SceneGraph.Plugin.Inspect

/-!
# Plugins for what surfaces and volumes are made of
-/

namespace SceneGraph.Plugin

open SceneGraph.Geometry Inspect

/-- Indices of refraction that can be given by name. -/
def refractionIndices : List (String × Float32) :=
  [("vacuum", 1.0), ("helium", 1.000036), ("hydrogen", 1.000132), ("air", 1.000277),
   ("carbon dioxide", 1.00045), ("water", 1.3330), ("acetone", 1.36), ("ethanol", 1.361),
   ("carbon tetrachloride", 1.461), ("glycerol", 1.4729), ("benzene", 1.501),
   ("silicone oil", 1.52045), ("bromine", 1.661), ("water ice", 1.31), ("fused quartz", 1.458),
   ("pyrex", 1.470), ("acrylic glass", 1.49), ("polypropylene", 1.49), ("bk7", 1.5046),
   ("sodium chloride", 1.544), ("amber", 1.55), ("pet", 1.5750), ("diamond", 2.419)]

/-- The index of a material; ASCII letters may have either case. -/
def refractionIndex? (material : String) : Option Float32 :=
  let name := String.ofList (material.toList.map Char.toLower)
  (refractionIndices.find? (·.1 = name)).map (·.2)

/-- An index of refraction as a number or as the name of a material. -/
def refraction (property : String) (default : Float32) : Inspect Float32 := do
  match ← floatOrName? property with
  | none => return default
  | some (.number x) =>
    forbid (x ≤ 0) (.notPositive property x)
    return x
  | some (.name material) =>
    let index := refractionIndex? material
    forbid index.isNone (.unknownRefraction material)
    return index.getD default

def bsdfPlugin (type : String) (settings : Inspect Bsdf) : Plugin where
  kind := .bsdf
  type := type
  accepts := []
  build _ := do
    let bsdf ← settings
    return some (.bsdf bsdf)

def diffuseSettings : Inspect Bsdf := do
  return .diffuse (← requiredRgb "reflectance" (Vec3.splat 0.5))

/-- One nested bsdf for both sides or one for each. A nested bsdf that failed counts, but
leaves nothing to build with. -/
def twoSidedPlugin : Plugin where
  kind := .bsdf
  type := "twosided"
  accepts := [.bsdf]
  build children :=
    let failed := children.failedCount .bsdf
    match children.bsdfs, failed with
    | [front], 0 => pure (some (.bsdf (.twoSided front none)))
    | [front, back], 0 => pure (some (.bsdf (.twoSided front (some back))))
    | sides, failed => do
      let declared := sides.length + failed
      forbid (declared < 1 || 2 < declared) (.sideCount declared)
      return none

def principledSettings : Inspect Bsdf := do
  let baseColor ← rgb "base_color" (Vec3.splat 0.5)
  let metallic ← float "metallic" 0
  let specular ← float "specular" 0.5
  let specTint ← float "spec_tint" 0
  let roughness ← float "roughness" 0.5
  let anisotropic ← float "anisotropic" 0
  let sheen ← float "sheen" 0
  let sheenTint ← float "sheen_tint" 0.5
  let clearcoat ← float "clearcoat" 0
  let clearcoatGloss ← float "clearcoat_gloss" 0
  let specTrans ← float "spec_trans" 0
  let eta ← float "eta" 1.5
  forbid (!(0 ≤ metallic && metallic ≤ 1)) (.outsideUnit "metallic" metallic)
  forbid (!(0 ≤ roughness && roughness ≤ 1)) (.outsideUnit "roughness" roughness)
  forbid (!(0 ≤ specTrans && specTrans ≤ 1)) (.outsideUnit "spec_trans" specTrans)
  return .principled
    ⟨baseColor, metallic, specular, specTint, roughness, anisotropic, sheen, sheenTint, clearcoat,
      clearcoatGloss, specTrans, eta⟩

def dielectricSettings : Inspect Bsdf := do
  let intIor ← refraction "int_ior" 1.5046
  let extIor ← refraction "ext_ior" 1.000277
  return .dielectric intIor extIor

def conductorSettings : Inspect Bsdf := do
  let material ← text "material" "none"
  let eta ← rgb? "eta"
  let k ← rgb? "k"
  return .conductor material eta k

def plasticSettings : Inspect Bsdf := do
  let reflectance ← rgb "diffuse_reflectance" (Vec3.splat 0.5)
  let intIor ← refraction "int_ior" 1.49
  let extIor ← refraction "ext_ior" 1.000277
  return .plastic reflectance intIor extIor

def homogeneousPlugin : Plugin where
  kind := .volume
  type := "homogeneous"
  accepts := []
  build _ := do
    let sigmaT ← spectrum "sigma_t" Vec3.one
    let albedo ← spectrum "albedo" (Vec3.splat 0.75)
    let scale ← float "scale" 1
    forbid (sigmaT.least < 0) .negativeExtinction
    forbid (albedo.least < 0 || 1 < albedo.greatest) .albedoRange
    return some (.volume (.homogeneous sigmaT albedo scale))

def materialPlugins : List Plugin :=
  [bsdfPlugin "diffuse" diffuseSettings,
   twoSidedPlugin,
   bsdfPlugin "principled" principledSettings,
   bsdfPlugin "dielectric" dielectricSettings,
   bsdfPlugin "conductor" conductorSettings,
   bsdfPlugin "plastic" plasticSettings,
   homogeneousPlugin]

end SceneGraph.Plugin
