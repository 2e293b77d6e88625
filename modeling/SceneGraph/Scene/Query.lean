import SceneGraph.Scene.Basic

/-!
# Looking things up in a scene
-/

namespace SceneGraph

open SceneGraph.Geometry

namespace Sensor

/-- Where the camera stands. -/
def origin (s : Sensor) : Vec3 := s.toWorld.origin

/-- Where the camera looks. -/
def forward (s : Sensor) : Vec3 := s.toWorld.forward

def fov? (s : Sensor) : Option Float32 :=
  match s.kind with
  | .perspective fov _ _ => some fov
  | .orthographic => none

def fovAxis? (s : Sensor) : Option FovAxis :=
  match s.kind with
  | .perspective _ axis _ => some axis
  | .orthographic => none

/-- Width and height in pixels. -/
def resolution (s : Sensor) : Nat × Nat := (s.film.width, s.film.height)

end Sensor

/-- The file that a shape's surface is read from. -/
def Shape.meshPath? (s : Shape) : Option String :=
  match s.surface with
  | .mesh _ filename _ => some filename
  | _ => none

namespace Scene

variable (scene : Scene)

def sensor? (id : String) : Option Sensor := scene.sensors.find? (·.id = some id)

def shape? (id : String) : Option Shape := scene.shapes.find? (·.id = some id)

/-- Emitters that belong to no shape. -/
def emitter? (id : String) : Option Emitter := scene.emitters.find? (·.id = some id)

def bsdf? (h : BsdfHandle) : Option Bsdf := scene.bsdfs[h.index]?.map (·.bsdf)

def volume? (h : VolumeHandle) : Option Volume := scene.volumes[h.index]?.map (·.volume)

/-- The bsdfs with an id. -/
def namedBsdfs : List (String × Bsdf) :=
  scene.bsdfs.filterMap fun e => e.id.map fun id => (id, e.bsdf)

def bsdfById? (id : String) : Option BsdfHandle :=
  (scene.bsdfs.findIdx? (·.id = some id)).map BsdfHandle.mk

/-- The id of a shape's bsdf. -/
def bsdfId? (s : Shape) : Option String := scene.bsdfs[s.bsdf.index]?.bind (·.id)

/-- The shapes with a mesh file, with their places in the list of shapes. -/
def meshShapes : List (Nat × Shape) :=
  (scene.shapes.zipIdx.map fun (s, i) => (i, s)).filter fun (_, s) => s.meshPath?.isSome

end Scene

end SceneGraph
