import SceneGraph.Geometry.Matrix
import SceneGraph.Location
import SceneGraph.Version

/-!
# Scenes

A loaded scene: every reference is resolved, every default applied and every transform
composed. Bsdfs and volumes are shared, so they lie in lists of the scene and are named by
their place there; everything else belongs to the object that holds it.
-/

namespace SceneGraph

open SceneGraph.Geometry

/-- A place in the scene's list of bsdfs. -/
structure BsdfHandle where
  index : Nat
deriving DecidableEq, Repr

/-- A place in the scene's list of volumes. -/
structure VolumeHandle where
  index : Nat
deriving DecidableEq, Repr

/-- A light transport algorithm. -/
inductive IntegratorKind where
  | path (maxDepth rrDepth : Int) (hideEmitters : Bool)
  /-- The path tracer that knows volumes. -/
  | volPath (maxDepth rrDepth : Int) (hideEmitters : Bool)
  | direct (emitterSamples bsdfSamples : Nat) (hideEmitters : Bool)
deriving DecidableEq, Repr

structure Integrator where
  id : Option String
  kind : IntegratorKind
deriving DecidableEq, Repr

/-- The image axis that a field of view spans. -/
inductive FovAxis where
  | x
  | y
  | diagonal
  | smaller
  | larger
deriving DecidableEq, Repr

namespace FovAxis

def all : List FovAxis := [x, y, diagonal, smaller, larger]

def name : FovAxis → String
  | x => "x"
  | y => "y"
  | diagonal => "diagonal"
  | smaller => "smaller"
  | larger => "larger"

def ofName? (s : String) : Option FovAxis := all.find? (·.name = s)

end FovAxis

inductive SensorKind where
  /-- A field of view in degrees. -/
  | perspective (fov : Float32) (axis : FovAxis) (principalPointOffset : Vec2)
  | orthographic
deriving DecidableEq

/-- How sample positions are drawn. -/
inductive SamplerKind where
  | independent
  | stratified
  | multijitter
  | lowDiscrepancy
deriving DecidableEq, Repr

structure Sampler where
  kind : SamplerKind
  sampleCount : Nat
  seed : Nat
deriving DecidableEq, Repr

/-- How samples are spread over pixels. -/
inductive Filter where
  | box
  | tent
  | gaussian (stddev : Float32)
deriving DecidableEq

/-- The filter of a film that names none. -/
def Filter.usual : Filter := .gaussian 0.5

structure Film where
  width : Nat
  height : Nat
  pixelFormat : String
  componentFormat : String
  filter : Filter
deriving DecidableEq

structure Sensor where
  id : Option String
  kind : SensorKind
  nearClip : Float32
  farClip : Float32
  toWorld : Mat4
  sampler : Sampler
  film : Film
deriving DecidableEq

structure Principled where
  baseColor : Vec3
  metallic : Float32
  specular : Float32
  specTint : Float32
  roughness : Float32
  anisotropic : Float32
  sheen : Float32
  sheenTint : Float32
  clearcoat : Float32
  clearcoatGloss : Float32
  specTrans : Float32
  eta : Float32
deriving DecidableEq

/-- How a surface scatters light. -/
inductive Bsdf where
  | diffuse (reflectance : Vec3)
  /-- A bsdf for each side; without one for the back, the front's serves both. -/
  | twoSided (front : BsdfHandle) (back : Option BsdfHandle)
  | principled (p : Principled)
  | dielectric (intIor extIor : Float32)
  | conductor (material : String) (eta k : Option Vec3)
  | plastic (diffuseReflectance : Vec3) (intIor extIor : Float32)
deriving DecidableEq

structure BsdfEntry where
  id : Option String
  bsdf : Bsdf
deriving DecidableEq

inductive EmitterKind where
  | constant (radiance : Vec3)
  | point (position intensity : Vec3)
  | directional (direction irradiance : Vec3)
  | envmap (filename : String) (scale : Float32) (toWorld : Mat4)
  /-- Light from the surface of the shape that holds it. -/
  | area (radiance : Vec3)
deriving DecidableEq

def EmitterKind.isArea : EmitterKind → Bool
  | area _ => true
  | _ => false

structure Emitter where
  id : Option String
  kind : EmitterKind
deriving DecidableEq

inductive MeshFormat where
  | ply
  | obj
deriving DecidableEq, Repr

def MeshFormat.name : MeshFormat → String
  | ply => "ply"
  | obj => "obj"

inductive Surface where
  | mesh (format : MeshFormat) (filename : String) (faceNormals : Bool)
  | sphere (center : Vec3) (radius : Float32)
  | rectangle
  | cube
  | disk
deriving DecidableEq

structure Shape where
  id : Option String
  surface : Surface
  toWorld : Mat4
  flipNormals : Bool
  bsdf : BsdfHandle
  emitter : Option Emitter
  interior : Option VolumeHandle
  exterior : Option VolumeHandle
  location : Location
deriving DecidableEq

inductive Volume where
  | homogeneous (sigmaT albedo : Vec3) (scale : Float32)
deriving DecidableEq

structure VolumeEntry where
  id : Option String
  volume : Volume
deriving DecidableEq

structure Scene where
  version : Version
  /-- Names and final values of the parameters, in the order of their names. -/
  parameters : List (String × String)
  integrator : Option Integrator
  sensors : List Sensor
  /-- All bsdfs, named or not, in the order in which their elements end. -/
  bsdfs : List BsdfEntry
  /-- The emitters that belong to no shape. -/
  emitters : List Emitter
  shapes : List Shape
  /-- All volumes, in the order in which their elements end. -/
  volumes : List VolumeEntry
deriving DecidableEq

end SceneGraph
