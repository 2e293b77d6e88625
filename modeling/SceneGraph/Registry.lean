import SceneGraph.Problem

/-!
# Declared ids

A registry keeps one entry for each id, made by the first declaration of it. Later
declarations are refused and remembered by their number. Only the node that owns an entry,
that is the node whose number the entry holds, can finish it.
-/

namespace SceneGraph

/-- How far the node behind an id has come. -/
inductive Status (α : Type) where
  | pending
  | built (value : α)
  | failed
deriving DecidableEq, Repr

structure Entry (α : Type) where
  id : String
  kind : NodeKind
  index : Nat
  location : Location
  status : Status α

structure Registry (α : Type) where
  entries : List (Entry α)
  /-- The numbers of the nodes that declare an id a second time. -/
  duplicates : List Nat

namespace Registry

variable {α : Type}

def empty : Registry α := ⟨[], []⟩

def find? (r : Registry α) (id : String) : Option (Entry α) := r.entries.find? (·.id = id)

/-- Declares an id. A taken id is refused, with the position of its entry. -/
def declare (r : Registry α) (id : String) (kind : NodeKind) (index : Nat) (l : Location) :
    Registry α × Option Problem :=
  match r.find? id with
  | some first =>
    ({ r with duplicates := r.duplicates ++ [index] }, some (.duplicateId id first.location l))
  | none => ({ r with entries := r.entries ++ [⟨id, kind, index, l, .pending⟩] }, none)

def isDuplicate (r : Registry α) (index : Nat) : Bool := r.duplicates.contains index

/-- Sets how far the node has come, in the entry that it owns. -/
def finish (r : Registry α) (id : String) (index : Nat) (status : Status α) : Registry α :=
  { r with entries := r.entries.map fun e =>
      if e.id = id ∧ e.index = index then { e with status := status } else e }

def complete (r : Registry α) (id : String) (index : Nat) (value : α) : Registry α :=
  r.finish id index (.built value)

def fail (r : Registry α) (id : String) (index : Nat) : Registry α := r.finish id index .failed

/-- What a reference at `l` names: a value, or nothing if the node failed. -/
def resolve (r : Registry α) (id : String) (l : Location) : Except Problem (Option α) :=
  match r.find? id with
  | none => .error (.unresolvedReference id l .undeclared)
  | some e =>
    match e.status with
    | .built value => .ok (some value)
    | .failed => .ok none
    | .pending => .error (.unresolvedReference id l (.unfinished e.kind e.location))

def size (r : Registry α) : Nat := r.entries.length

end Registry

end SceneGraph
