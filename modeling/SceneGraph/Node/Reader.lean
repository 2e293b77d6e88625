import SceneGraph.Node
import SceneGraph.Node.Transform

/-!
# Reading nodes from elements

An element that cannot be read is left out and its problem reported; reading goes on behind
it. A property that is there but cannot be read is remembered by name, so that it is not
missed later. The number of a node is taken when its element is met, also when the element
turns out to be no node.
-/

namespace SceneGraph

open Markup

namespace Node

/-- The content of a node while its element's children are read. -/
structure Body where
  properties : List Property
  children : List Child
  invalid : List String

namespace Body

def empty : Body := ⟨[], [], []⟩

/-- A property of this name was read before, with or without success. -/
def knows (b : Body) (name : String) : Bool :=
  b.properties.any (·.name = name) || b.invalid.contains name

def addChild (b : Body) (c : Child) : Body := { b with children := b.children ++ [c] }

def addInvalid (b : Body) (name : String) : Body := { b with invalid := b.invalid ++ [name] }

/-- Adds a property unless its name is taken. -/
def addProperty (b : Body) (p : Property) : Body × List Problem :=
  if b.knows p.name then (b, [.malformed p.location (.repeatedProperty p.name)])
  else ({ b with properties := b.properties ++ [p] }, [])

end Body

variable (params : Parameter.Table)

/-- The value of a literal element that writes the property `name`. -/
def readLiteral (kind : LiteralKind) (name : String) (e : Element) : Checked Value := do
  if !e.children.isEmpty then .fail (.malformed e.location (.literalChildren e.tag name))
  else if kind = .point && !e.hasAttribute "value" then
    return .point (← Attribute.coordinates params e 0 .point name)
  else if kind = .vector && !e.hasAttribute "value" then
    return .vector (← Attribute.coordinates params e 0 .vector name)
  else
    let raw ← Attribute.required params e "value" (.noLiteralValue e.tag name)
    Attribute.checkLiteral e name (Literal.read kind raw)

def readReference (e : Element) : Checked Reference := do
  let id ← Attribute.required params e "id" .refWithoutId
  let name ← Attribute.value? params e "name"
  return ⟨id, name, e.location⟩

/-- Reads the property that `read` makes of its name, in a node of kind `parent`. -/
def readProperty (parent : NodeKind) (e : Element) (read : String → Checked Value) (b : Body) :
    Body × List Problem :=
  let name := Attribute.required params e "name" (.unnamedProperty e.tag parent)
  match name.value? with
  | none => (b, name.problems)
  | some n =>
    let value := read n
    match value.value? with
    | none => (b.addInvalid n, name.problems ++ value.problems)
    | some v =>
      let (b', problems) := b.addProperty ⟨n, v, e.location⟩
      (b', name.problems ++ value.problems ++ problems)

/-- Reads a child element that is no nested node. -/
def readEntry (parent : NodeKind) (e : Element) (b : Body) : Body × List Problem :=
  if e.tag = "ref" then
    let r := readReference params e
    match r.value? with
    | none => (b, r.problems)
    | some ref => (b.addChild (.reference ref), r.problems)
  else if e.tag = "transform" then
    readProperty params parent e
      (fun _ => do return .transform (Geometry.compose (← Transform.readAll params e))) b
  else
    match LiteralKind.ofTag? e.tag with
    | some kind => readProperty params parent e (fun name => readLiteral params kind name e) b
    | none => (b, [.unexpectedElement e.tag e.location])

/-- The attributes of a node. -/
structure Head where
  type : String
  id : Option String
  name : Option String

/-- An id is not empty. -/
def readHead (e : Element) : Checked Head := do
  let type ← Attribute.required params e "type" (.noType e.tag)
  let id ← Attribute.value? params e "id"
  let name ← Attribute.value? params e "name"
  if id = some "" then .fail (.malformed e.location (.emptyId e.tag))
  else return ⟨type, id, name⟩

/-- What was read, the number of the next node, and the problems met. -/
structure Progress (α : Type) where
  value : α
  next : Nat
  problems : List Problem

def assemble (index : Nat) (kind : NodeKind) (h : Head) (l : Location) (b : Body) : Node :=
  ⟨index, kind, h.type, h.id, h.name, l, b.properties, b.children, b.invalid⟩

mutual

/-- The node that an element declares, if its attributes can be read. -/
def read (kind : NodeKind) (index : Nat) : Element → Progress (Option Node)
  | ⟨tag, attributes, children, location⟩ =>
    let head := readHead params ⟨tag, attributes, children, location⟩
    match head.value? with
    | none => ⟨none, index + 1, head.problems⟩
    | some h =>
      let body := readChildren kind (index + 1) Body.empty children
      ⟨some (assemble index kind h location body.value), body.next,
        head.problems ++ body.problems⟩

/-- The content of a node of kind `parent`, continued from `b`. -/
def readChildren (parent : NodeKind) (next : Nat) (b : Body) : List Element → Progress Body
  | [] => ⟨b, next, []⟩
  | e :: es =>
    match NodeKind.ofTag? e.tag with
    | some kind =>
      let node := read kind next e
      let b' := match node.value with
        | some n => b.addChild (.nested n)
        | none => b
      let rest := readChildren parent node.next b' es
      ⟨rest.value, rest.next, node.problems ++ rest.problems⟩
    | none =>
      let (b', problems) := readEntry params parent e b
      let rest := readChildren parent next b' es
      ⟨rest.value, rest.next, problems ++ rest.problems⟩

end

/-- The nodes among the children of a root element, numbered from `next`. Defaults are not
looked at here. -/
def readForest (next : Nat) : List Element → Progress (List Node)
  | [] => ⟨[], next, []⟩
  | e :: es =>
    if e.tag = "default" then readForest next es
    else
      match NodeKind.ofTag? e.tag with
      | some kind =>
        let node := read params kind next e
        let rest := readForest node.next es
        ⟨node.value.toList ++ rest.value, rest.next, node.problems ++ rest.problems⟩
      | none =>
        let rest := readForest next es
        ⟨rest.value, rest.next, .unexpectedElement e.tag e.location :: rest.problems⟩

end Node

end SceneGraph
