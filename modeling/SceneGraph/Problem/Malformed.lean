import SceneGraph.Literal

/-!
# Elements that are no declaration

What an element of a description lacks or has too much of, apart from values of a wrong kind.
-/

namespace SceneGraph

inductive Malformed where
  | noVersion
  | badVersion (raw : String)
  | defaultName (name : String)
  | incompleteDefault
  | noType (tag : String)
  | emptyId (tag : String)
  | refWithoutId
  | unnamedProperty (tag : String) (kind : NodeKind)
  | repeatedProperty (name : String)
  | literalChildren (tag name : String)
  | noLiteralValue (tag name : String)
  | literal (property : String) (fault : Literal.Fault)
  | operation (tag : String) (fault : Geometry.Operation.Fault)
  | noAngle
  | scaleCount (count : Nat)
  | noMatrixValue
  | matrixCount (count : Nat)
  | incompleteLookAt
deriving DecidableEq

def Malformed.message : Malformed → String
  | noVersion => "<scene> is missing its version attribute"
  | badVersion raw => s!"malformed scene version \"{raw}\""
  | defaultName name => s!"invalid default name '{name}'"
  | incompleteDefault => "<default> needs both name and value attributes"
  | noType tag => s!"<{tag}> is missing its type attribute"
  | emptyId tag => s!"<{tag}> has an empty id"
  | refWithoutId => "<ref> is missing its id attribute"
  | unnamedProperty tag kind => s!"<{tag}> property of {kind.name} is missing its name attribute"
  | repeatedProperty name => s!"property '{name}' is specified more than once"
  | literalChildren tag name => s!"<{tag}> property '{name}' cannot have children"
  | noLiteralValue tag name => s!"<{tag}> property '{name}' has no value"
  | literal property fault => s!"property '{property}': {fault.message}"
  | operation tag fault => s!"<{tag}>: {fault.message}"
  | noAngle => "<rotate> is missing its angle attribute"
  | scaleCount n => s!"property 'scale': scale needs 1 or 3 components, found {n}"
  | noMatrixValue => "<matrix> has no value"
  | matrixCount n => s!"property 'matrix': matrix needs 9 or 16 values, found {n}"
  | incompleteLookAt => "<lookat> needs origin and target attributes"

end SceneGraph
