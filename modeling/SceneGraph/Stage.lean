/-!
# The stages of a load

A load goes through its stages in order and ends ready or failed.
-/

namespace SceneGraph

inductive Stage where
  | fresh
  | readingDefaults
  | readingNodes
  | resolving
  | validating
  | ready
  | failed
deriving DecidableEq, Repr

namespace Stage

def name : Stage → String
  | fresh => "init"
  | readingDefaults => "parsing defaults"
  | readingNodes => "parsing nodes"
  | resolving => "resolving"
  | validating => "validating"
  | ready => "ready"
  | failed => "failed"

/-- The place of a stage in the order of a load. -/
def rank : Stage → Nat
  | fresh => 0
  | readingDefaults => 1
  | readingNodes => 2
  | resolving => 3
  | validating => 4
  | ready => 5
  | failed => 6

end Stage

end SceneGraph
