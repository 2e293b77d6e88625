import SceneGraph.Markup.Reader
import SceneGraph.Node.Reader
import SceneGraph.Preamble
import SceneGraph.Scene.Assembly

/-!
# Loading a scene

A load goes through its stages in order. Problems of the text, of the version and of the
parameters end it at once; problems with nodes are gathered over reading and building, and
the scene as a whole is checked only when there are none.
-/

namespace SceneGraph

structure Options where
  /-- New values for defaults, in order. -/
  overrides : List (String × String)
  /-- Properties that no plugin asks for are problems. -/
  strict : Bool
deriving DecidableEq, Repr

/-- What came of a load, with the stages it entered in order. -/
structure Run where
  stages : List Stage
  warnings : List Unused
  result : Except (List Problem) Scene

namespace Run

/-- A load that ends with problems. -/
def fail (stages : List Stage) (warnings : List Unused) (problems : List Problem) : Run :=
  ⟨stages ++ [.failed], warnings, .error problems⟩

/-- The last stage that was entered. -/
def final (r : Run) : Stage := r.stages.getLast?.getD .fresh

end Run

namespace Load

/-- Builds and checks the nodes of a description whose parameters are known. -/
def nodes (options : Options) (version : Version) (params : Parameter.Table)
    (root : Markup.Element) : Run :=
  let forest := Node.readForest params 0 root.children
  let (inst, findings) := Instantiation.run forest.value
  let warnings := Finding.warnings options.strict findings
  let problems := forest.problems ++ Finding.problems options.strict findings
  let stages := [.readingDefaults, .readingNodes, .resolving]
  if problems.isEmpty then
    match Assembly.assemble version params inst with
    | .ok scene => ⟨stages ++ [.validating, .ready], warnings, .ok scene⟩
    | .error problems => .fail (stages ++ [.validating]) warnings problems
  else .fail stages warnings problems

/-- Loads the description in an element tree. -/
def root (options : Options) (root : Markup.Element) : Run :=
  match readVersion root with
  | .error p => .fail [.readingDefaults] [] [p]
  | .ok version =>
    let (params, defaultProblems) := Parameter.Table.ofRoot root
    let (params, overrideProblems) := params.overrideAll options.overrides
    let problems := defaultProblems ++ overrideProblems
    if problems.isEmpty then nodes options version params root
    else .fail [.readingDefaults] [] problems

/-- Loads the description in a text. -/
def text (options : Options) (source : String) : Run :=
  match Markup.read source with
  | .error f => .fail [.readingDefaults] [] [.notWellFormed f.location f.fault]
  | .ok e => root options e

end Load

end SceneGraph
