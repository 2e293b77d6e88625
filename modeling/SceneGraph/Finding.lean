import SceneGraph.Problem

/-!
# Findings, and how strictly they are judged

Building nodes finds problems, and properties that no plugin asked for. The latter are
problems in a strict load and warnings otherwise; nothing else depends on strictness.
-/

namespace SceneGraph

/-- A property that the plugin of its node did not ask for. -/
structure Unused where
  node : NodeRef
  property : String
  location : Location
deriving DecidableEq

namespace Unused

def warning (u : Unused) : String :=
  s!"Unused property '{u.property}' on {u.node.kind.name} \"{u.node.type}\" " ++
    s!"at {u.location.describe}"

def problem (u : Unused) : Problem := .violation u.node (.unusedProperty u.property)

end Unused

inductive Finding where
  | problem (p : Problem)
  | unused (u : Unused)
deriving DecidableEq

namespace Finding

/-- The problem that a finding is. -/
def problem? (strict : Bool) : Finding → Option Problem
  | problem p => some p
  | unused u => if strict then some u.problem else none

/-- The warning that a finding is. -/
def warning? (strict : Bool) : Finding → Option Unused
  | problem _ => none
  | unused u => if strict then none else some u

def problems (strict : Bool) (fs : List Finding) : List Problem := fs.filterMap (problem? strict)

def warnings (strict : Bool) (fs : List Finding) : List Unused := fs.filterMap (warning? strict)

end Finding

end SceneGraph
