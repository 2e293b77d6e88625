/-!
# The vocabulary of a scene description

The kinds of node, the kinds of literal property and the kinds of property, each with the
tag that spells it. `ofTag?` and `name` are inverse to each other.
-/

namespace SceneGraph

/-- What a plugin node describes. -/
inductive NodeKind where
  | integrator
  | sensor
  | sampler
  | film
  | filter
  | bsdf
  | emitter
  | shape
  | volume
deriving DecidableEq, Repr, Inhabited

namespace NodeKind

def all : List NodeKind :=
  [integrator, sensor, sampler, film, filter, bsdf, emitter, shape, volume]

def name : NodeKind → String
  | integrator => "integrator"
  | sensor => "sensor"
  | sampler => "sampler"
  | film => "film"
  | filter => "rfilter"
  | bsdf => "bsdf"
  | emitter => "emitter"
  | shape => "shape"
  | volume => "volume"

/-- The kind of node that an element with this tag declares. -/
def ofTag? (tag : String) : Option NodeKind := all.find? (·.name = tag)

theorem ofTag?_name (k : NodeKind) : ofTag? k.name = some k := by
  cases k <;> decide

theorem name_of_ofTag? {tag : String} {k : NodeKind} (h : ofTag? tag = some k) : k.name = tag := by
  simpa using List.find?_some h

end NodeKind

/-- What a literal property holds. -/
inductive LiteralKind where
  | integer
  | float
  | boolean
  | text
  | rgb
  | point
  | vector
deriving DecidableEq, Repr, Inhabited

namespace LiteralKind

def all : List LiteralKind := [integer, float, boolean, text, rgb, point, vector]

def name : LiteralKind → String
  | integer => "integer"
  | float => "float"
  | boolean => "boolean"
  | text => "string"
  | rgb => "rgb"
  | point => "point"
  | vector => "vector"

/-- The kind of literal that an element with this tag writes. -/
def ofTag? (tag : String) : Option LiteralKind := all.find? (·.name = tag)

theorem ofTag?_name (k : LiteralKind) : ofTag? k.name = some k := by
  cases k <;> decide

theorem name_of_ofTag? {tag : String} {k : LiteralKind} (h : ofTag? tag = some k) :
    k.name = tag := by
  simpa using List.find?_some h

end LiteralKind

/-- What a property holds: a literal or a composed transform. -/
inductive PropertyKind where
  | literal (kind : LiteralKind)
  | transform
deriving DecidableEq, Repr

def PropertyKind.name : PropertyKind → String
  | literal k => k.name
  | transform => "transform"

/-- What a place in a description calls for. -/
inductive Expected where
  | kind (k : PropertyKind)
  | floatOrText
  | rgbOrFloat
  /-- A child of one of the accepted kinds inside a node of kind `parent`. -/
  | child (accepted : List NodeKind) (parent : NodeKind)
  | slottedVolume
deriving DecidableEq, Repr

/-- What stands there instead. -/
inductive Found where
  | nothing
  | token (text : String)
  /-- A token that would do for a float. -/
  | floatToken (text : String)
  | kind (k : PropertyKind)
  | nested (k : NodeKind)
  | reference (k : NodeKind)
  | unslottedVolume
deriving DecidableEq, Repr

/-- The names of some kinds as an enumeration. -/
def NodeKind.enumerate : List NodeKind → String
  | [] => "no nested nodes"
  | [k] => k.name
  | [j, k] => s!"{j.name} or {k.name}"
  | k :: ks => s!"{k.name}, {enumerate ks}"

def Expected.describe : Expected → String
  | .kind k => k.name
  | .floatOrText => "float or string"
  | .rgbOrFloat => "rgb or float"
  | .child accepted parent => s!"{NodeKind.enumerate accepted} inside {parent.name}"
  | .slottedVolume => "volume named \"interior\" or \"exterior\""

def Found.describe : Found → String
  | .nothing => "an empty value"
  | .token t => s!"'{t}'"
  | .floatToken t => s!"float '{t}'"
  | .kind k => k.name
  | .nested k => s!"nested {k.name}"
  | .reference k => s!"reference to a {k.name}"
  | .unslottedVolume => "unnamed volume"

end SceneGraph
