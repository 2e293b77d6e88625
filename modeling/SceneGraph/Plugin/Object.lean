import SceneGraph.Problem
import SceneGraph.Scene.Basic

/-!
# What plugins make

Most objects are complete when their node is built. Sensors and shapes are drafts until the
whole scene is checked: a draft keeps every sampler, film, bsdf and emitter that it was given
and every count as it was written.
-/

namespace SceneGraph

open SceneGraph.Geometry

structure SamplerDraft where
  node : NodeRef
  kind : SamplerKind
  sampleCount : Int
  seed : Int
deriving DecidableEq

structure FilmDraft where
  node : NodeRef
  width : Int
  height : Int
  pixelFormat : String
  componentFormat : String
  filter : Filter
deriving DecidableEq

structure SensorDraft where
  node : NodeRef
  kind : SensorKind
  nearClip : Float32
  farClip : Float32
  toWorld : Mat4
  samplers : List SamplerDraft
  films : List FilmDraft
deriving DecidableEq

structure ShapeDraft where
  node : NodeRef
  surface : Surface
  toWorld : Mat4
  flipNormals : Bool
  bsdfs : List BsdfHandle
  emitters : List Emitter
  interior : Option VolumeHandle
  exterior : Option VolumeHandle
deriving DecidableEq

/-- The object of a finished node. -/
inductive Object where
  | integrator (i : Integrator)
  | sensor (d : SensorDraft)
  | sampler (d : SamplerDraft)
  | film (d : FilmDraft)
  | filter (f : Filter)
  | bsdf (h : BsdfHandle)
  | emitter (e : Emitter)
  | shape (d : ShapeDraft)
  | volume (h : VolumeHandle)
deriving DecidableEq

namespace Object

def kind : Object → NodeKind
  | integrator _ => .integrator
  | sensor _ => .sensor
  | sampler _ => .sampler
  | film _ => .film
  | filter _ => .filter
  | bsdf _ => .bsdf
  | emitter _ => .emitter
  | shape _ => .shape
  | volume _ => .volume

def sampler? : Object → Option SamplerDraft
  | sampler d => some d
  | _ => none

def film? : Object → Option FilmDraft
  | film d => some d
  | _ => none

def filter? : Object → Option Filter
  | filter f => some f
  | _ => none

def bsdf? : Object → Option BsdfHandle
  | bsdf h => some h
  | _ => none

def emitter? : Object → Option Emitter
  | emitter e => some e
  | _ => none

def volume? : Object → Option VolumeHandle
  | volume h => some h
  | _ => none

end Object

/-- What a plugin makes of its node: an object, or a bsdf or volume that still has to get its
place in the scene. -/
inductive Product where
  | object (o : Object)
  | bsdf (b : Bsdf)
  | volume (v : Volume)

/-- An object as the child of a node. -/
structure Attachment where
  /-- The name on the nested node or on the reference. -/
  name : Option String
  object : Object
  location : Location
  byReference : Bool
deriving DecidableEq

/-- The children of a node: those that were built, in order, and the kinds of those that
failed. -/
structure Attached where
  items : List Attachment
  failed : List NodeKind

namespace Attached

variable (a : Attached)

def samplers : List SamplerDraft := a.items.filterMap (·.object.sampler?)

def films : List FilmDraft := a.items.filterMap (·.object.film?)

def filters : List Filter := a.items.filterMap (·.object.filter?)

def bsdfs : List BsdfHandle := a.items.filterMap (·.object.bsdf?)

def emitters : List Emitter := a.items.filterMap (·.object.emitter?)

/-- The volumes, with how they were attached. -/
def volumes : List (Attachment × VolumeHandle) :=
  a.items.filterMap fun item => item.object.volume?.map (item, ·)

/-- How many nested nodes of a kind failed. -/
def failedCount (k : NodeKind) : Nat := a.failed.count k

end Attached

end SceneGraph
