import SceneGraph.File.Fault
import SceneGraph.Markup.Fault
import SceneGraph.Mesh.Fault
import SceneGraph.Problem.Malformed
import SceneGraph.Problem.Violation
import SceneGraph.Stage

/-!
# What can be wrong with a scene description

A problem carries its cause as data, and the position of the element at fault where there is
one (`Problem.location?`). All wording is in `Problem.message`.
-/

namespace SceneGraph

/-- A node as messages name it. -/
structure NodeRef where
  kind : NodeKind
  type : String
  id : Option String
  location : Location
deriving DecidableEq, Repr

def NodeRef.describe (n : NodeRef) : String :=
  match n.id with
  | some id => s!"{n.kind.name} '{id}' (type \"{n.type}\") at {n.location.describe}"
  | none => s!"{n.kind.name} (type \"{n.type}\") at {n.location.describe}"

/-- Why a reference names no finished node. -/
inductive Unresolved where
  | undeclared
  /-- The node is declared, but not complete where the reference stands. -/
  | unfinished (kind : NodeKind) (declared : Location)
deriving DecidableEq, Repr

def Unresolved.message (id : String) : Unresolved → String
  | undeclared => "no node with this id is declared"
  | unfinished kind declared =>
    s!"{kind.name} '{id}' at {declared.describe} is not fully declared before this point"

/-- What a scene as a whole can break. -/
inductive SceneRule where
  | noSensor
  | noShape
  | alreadyLoaded (stage : Stage)
  /-- A load that ends with no problem to show for it. -/
  | unexplained
deriving DecidableEq, Repr

def SceneRule.message : SceneRule → String
  | noSensor => "scene declares no sensor"
  | noShape => "scene declares no shape"
  | alreadyLoaded stage => s!"loader already ran (stage: {stage.name})"
  | unexplained => "load failed without reporting an error"

inductive Problem where
  | unreadable (path : String) (fault : File.Fault)
  | notWellFormed (location : Location) (fault : Markup.Fault)
  | unsupportedVersion (location : Location) (version : String)
  | malformed (location : Location) (fault : Malformed)
  | typeMismatch (location : Location) (property : String) (expected : Expected) (found : Found)
  | duplicateId (id : String) (first second : Location)
  | duplicateDefault (name : String) (first second : Location)
  | unresolvedReference (id : String) (location : Location) (reason : Unresolved)
  | undefinedParameter (name : String) (location : Location)
  | unknownParameter (name : String)
  | duplicateOverride (name : String)
  | nestedParameter (name token : String)
  | unknownType (kind : NodeKind) (type : String) (location : Location)
  | unexpectedElement (tag : String) (location : Location)
  | missingProperty (node : NodeRef) (property : String)
  | violation (node : NodeRef) (rule : Violation)
  | sceneViolation (rule : SceneRule)
  | meshNotLoaded (path : String) (location : Location) (fault : Mesh.Fault)
deriving DecidableEq

namespace Problem

/-- The element at fault; for a repeated declaration the second one. -/
def location? : Problem → Option Location
  | notWellFormed l _ | unsupportedVersion l _ | malformed l _ | typeMismatch l _ _ _
  | unresolvedReference _ l _ | undefinedParameter _ l | unknownType _ _ l
  | unexpectedElement _ l | meshNotLoaded _ l _ => some l
  | duplicateId _ _ second | duplicateDefault _ _ second => some second
  | missingProperty node _ | violation node _ => some node.location
  | unreadable _ _ | unknownParameter _ | duplicateOverride _ | nestedParameter _ _
  | sceneViolation _ => none

def message : Problem → String
  | unreadable path fault => s!"IO error reading {path}: {fault.message}"
  | notWellFormed l fault => s!"Syntax error at {l.describe}: {fault.message}"
  | unsupportedVersion l version =>
    s!"Unsupported scene version \"{version}\" at {l.describe} (supported: 2.0.0 to 3.x)"
  | malformed l fault => s!"Parse error at {l.describe}: {fault.message}"
  | typeMismatch l property expected found =>
    s!"Type mismatch for property '{property}' at {l.describe}: " ++
      s!"expected {expected.describe}, found {found.describe}"
  | duplicateId id first second =>
    s!"Duplicate id '{id}': first declared at {first.describe}, " ++
      s!"declared again at {second.describe}"
  | duplicateDefault name first second =>
    s!"Duplicate default '{name}': first declared at {first.describe}, " ++
      s!"declared again at {second.describe}"
  | unresolvedReference id l reason =>
    s!"Unresolved reference to '{id}' at {l.describe}: {reason.message id}"
  | undefinedParameter name l => s!"Undefined parameter '${name}' at {l.describe}"
  | unknownParameter name => s!"Override for unknown parameter '{name}' (no matching <default>)"
  | duplicateOverride name => s!"Parameter '{name}' overridden more than once"
  | nestedParameter name token =>
    s!"Value of parameter '{name}' contains the token '${token}'; " ++
      "parameter values are not substituted"
  | unknownType kind type l => s!"Unknown plugin type \"{type}\" for {kind.name} at {l.describe}"
  | unexpectedElement tag l => s!"Unexpected element <{tag}> at {l.describe}"
  | missingProperty node property => s!"{node.describe}: missing required property '{property}'"
  | violation node rule => s!"Validation error: {node.describe}: {rule.message}"
  | sceneViolation rule => s!"Validation error: {rule.message}"
  | meshNotLoaded path l fault =>
    s!"Failed to load mesh '{path}' for shape at {l.describe}: {fault.message}"

/-- A failed load as a text of one line for each problem, below a line that counts them. -/
def report (problems : List Problem) : String :=
  s!"scene failed to load with {problems.length} error(s)" ++
    String.join (problems.map fun p => s!"\n  - {p.message}")

end Problem

end SceneGraph
