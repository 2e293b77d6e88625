import SceneGraph.Literal
import SceneGraph.Problem

/-!
# Node declarations

A node is an element with a plugin tag, with its attributes substituted, its properties read
and its children sorted into nested nodes and references. Nodes are numbered in the order in
which their start tags stand in the document.
-/

namespace SceneGraph

structure Property where
  name : String
  value : Value
  location : Location

/-- A mention of another node by its id. -/
structure Reference where
  id : String
  name : Option String
  location : Location
deriving DecidableEq

mutual

structure Node where
  index : Nat
  kind : NodeKind
  type : String
  id : Option String
  name : Option String
  location : Location
  properties : List Property
  children : List Child
  /-- The names of properties that are there but could not be read. -/
  invalid : List String

inductive Child where
  | nested (node : Node)
  | reference (ref : Reference)

end

namespace Node

/-- The first property with a name. -/
def property? (n : Node) (name : String) : Option Property :=
  n.properties.find? (·.name = name)

def ref (n : Node) : NodeRef := ⟨n.kind, n.type, n.id, n.location⟩

end Node

end SceneGraph
