import SceneGraph.Finding
import SceneGraph.Plugin.Catalogue
import SceneGraph.Registry

/-!
# Building the objects of nodes

All ids are declared first. Then every node is built after its children, and its object
becomes known under its id when it is finished, so a reference reaches only what ended before
it. A node with a child that is a duplicate, or with a reference to nothing finished, is
aborted without further findings; a node with a child that merely failed still has its own
properties inspected.
-/

namespace SceneGraph

/-- Bsdfs and volumes in the order in which they were made. -/
structure Arena where
  bsdfs : List BsdfEntry
  volumes : List VolumeEntry
deriving DecidableEq

namespace Arena

def empty : Arena := ⟨[], []⟩

/-- The object of a product; a bsdf or volume gets the next free place. -/
def store (a : Arena) (id : Option String) : Product → Object × Arena
  | .object o => (o, a)
  | .bsdf b => (.bsdf ⟨a.bsdfs.length⟩, { a with bsdfs := a.bsdfs ++ [⟨id, b⟩] })
  | .volume v => (.volume ⟨a.volumes.length⟩, { a with volumes := a.volumes ++ [⟨id, v⟩] })

end Arena

/-- How building a node ended. -/
inductive Outcome where
  | built (o : Object)
  /-- The node or one of its children has problems. -/
  | failed
  /-- A duplicate id or an unresolved reference cut the node short. -/
  | aborted
deriving DecidableEq

def Outcome.object? : Outcome → Option Object
  | built o => some o
  | _ => none

namespace Instantiation

structure State where
  registry : Registry Object
  arena : Arena
  findings : List Finding

namespace State

def start : State := ⟨Registry.empty, Arena.empty, []⟩

def add (s : State) (fs : List Finding) : State := { s with findings := s.findings ++ fs }

/-- Makes the end of a node known under its id. -/
def publish (s : State) (id : Option String) (index : Nat) (outcome : Outcome) : State :=
  match id with
  | none => s
  | some id =>
    { s with registry := match outcome with
      | .built o => s.registry.complete id index o
      | .failed | .aborted => s.registry.fail id index }

end State

/-! ## Declaring ids -/

mutual

/-- Declares the ids of a node and of all nodes in it. A node whose id is taken is left out
with all it contains. -/
def declareNode (r : Registry Object) : Node → Registry Object × List Problem
  | ⟨index, kind, _, id, _, location, _, children, _⟩ =>
    match id with
    | none => declareChildren r children
    | some id =>
      match r.declare id kind index location with
      | (r, some problem) => (r, [problem])
      | (r, none) => declareChildren r children

def declareChildren (r : Registry Object) : List Child → Registry Object × List Problem
  | [] => (r, [])
  | .nested n :: cs =>
    let (r, problems) := declareNode r n
    let (r, more) := declareChildren r cs
    (r, problems ++ more)
  | .reference _ :: cs => declareChildren r cs

end

def declareAll (r : Registry Object) : List Node → Registry Object × List Problem
  | [] => (r, [])
  | n :: ns =>
    let (r, problems) := declareNode r n
    let (r, more) := declareAll r ns
    (r, problems ++ more)

/-! ## One node with its children at hand -/

/-- The problem of a child that its node's plugin does not accept. -/
def refusal (parent : NodeKind) (accepted : List NodeKind) (a : Attachment) : Problem :=
  let kind := a.object.kind
  .typeMismatch a.location (a.name.getD kind.name) (.child accepted parent)
    (if a.byReference then .reference kind else .nested kind)

/-- The problems of the children that are not accepted, in order. -/
def refusals (parent : NodeKind) (accepted : List NodeKind) (a : Attached) : List Problem :=
  (a.items.filter fun item => !accepted.contains item.object.kind).map (refusal parent accepted)

/-- The properties that were not asked for. Of several properties with one name only the
first can be used. -/
def unused (node : NodeRef) (asked : List String) (earlier : List String) :
    List Property → List Unused
  | [] => []
  | p :: ps =>
    let rest := unused node asked (p.name :: earlier) ps
    if asked.contains p.name && !earlier.contains p.name then rest
    else ⟨node, p.name, p.location⟩ :: rest

/-- What a plugin makes of a node, and what it finds. -/
def inspect (p : Plugin) (node : Node) (children : Attached) : Option Product × List Finding :=
  let (product, trace) := p.build children node.settings
  (product,
    trace.problems.map Finding.problem ++
      (refusals node.kind p.accepts children).map Finding.problem ++
      (unused node.ref trace.asked [] node.properties).map Finding.unused)

/-- Builds a node whose children are built. -/
def finish (node : Node) (children : Attached) (s : State) : Outcome × State :=
  match Plugin.find? node.kind node.type with
  | none => (.failed, s.add [.problem (.unknownType node.kind node.type node.location)])
  | some plugin =>
    match inspect plugin node children with
    | (none, findings) => (.failed, s.add findings)
    | (some product, findings) =>
      let (object, arena) := s.arena.store node.id product
      (if children.failed.isEmpty then .built object else .failed,
        { s.add findings with arena := arena })

/-! ## Nodes and their children -/

/-- What became of the children of a node. -/
structure Gathered where
  attached : Attached
  aborted : Bool

namespace Gathered

def none : Gathered := ⟨⟨[], []⟩, false⟩

/-- Puts the outcome of a nested node in front. -/
def nested (n : Node) (outcome : Outcome) (g : Gathered) : Gathered :=
  match outcome with
  | .built o => { g with attached.items := ⟨n.name, o, n.location, false⟩ :: g.attached.items }
  | .failed => { g with attached.failed := n.kind :: g.attached.failed }
  | .aborted => { g with aborted := true }

/-- Puts the target of a reference in front. -/
def reference (r : Reference) (target : Option Object) (g : Gathered) : Gathered :=
  match target with
  | some o => { g with attached.items := ⟨r.name, o, r.location, true⟩ :: g.attached.items }
  | .none => { g with aborted := true }

end Gathered

mutual

/-- Builds a node and all that it contains. -/
def build (s : State) : Node → Outcome × State
  | ⟨index, kind, type, id, name, location, properties, children, invalid⟩ =>
    let node : Node := ⟨index, kind, type, id, name, location, properties, children, invalid⟩
    if s.registry.isDuplicate index then (.aborted, s)
    else
      let (gathered, s) := buildChildren s children
      let (outcome, s) :=
        if gathered.aborted then (.aborted, s) else finish node gathered.attached s
      (outcome, s.publish id index outcome)

def buildChildren (s : State) : List Child → Gathered × State
  | [] => (Gathered.none, s)
  | .nested n :: cs =>
    let (outcome, s) := build s n
    let (gathered, s) := buildChildren s cs
    (gathered.nested n outcome, s)
  | .reference r :: cs =>
    match s.registry.resolve r.id r.location with
    | .ok target =>
      let (gathered, s) := buildChildren s cs
      (gathered.reference r target, s)
    | .error p =>
      let (gathered, s) := buildChildren (s.add [.problem p]) cs
      (gathered.reference r none, s)

end

/-- A node at the top of a description, with the object built for it. -/
structure Root where
  node : NodeRef
  object : Object
deriving DecidableEq

def buildAll (s : State) : List Node → List Root × State
  | [] => ([], s)
  | n :: ns =>
    let (outcome, s) := build s n
    let (roots, s) := buildAll s ns
    ((outcome.object?.map fun o => ⟨n.ref, o⟩).toList ++ roots, s)

end Instantiation

/-- The objects of a whole description. -/
structure Instantiation where
  roots : List Instantiation.Root
  arena : Arena
deriving DecidableEq

namespace Instantiation

/-- Declares the ids of all nodes and builds them in order. -/
def run (nodes : List Node) : Instantiation × List Finding :=
  let (registry, problems) := declareAll Registry.empty nodes
  let (roots, s) := buildAll ⟨registry, Arena.empty, problems.map Finding.problem⟩ nodes
  (⟨roots, s.arena⟩, s.findings)

end Instantiation

end SceneGraph
