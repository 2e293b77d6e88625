import SceneGraph.Load

/-!
# Loaders

A loader takes one text through the stages of a load.  It gathers the problems that it meets and
answers for them at the checkpoints, or where a step leaves nothing to go on with.  What a loader
comes to is `Load.text`.
-/

namespace SceneGraph

structure Loader where
  options : Options
  /-- The stages that were entered, in order. -/
  entered : List Stage
  /-- The problems that are not answered for yet. -/
  pending : List Problem
  warned : List Unused

namespace Loader

def new (options : Options) : Loader := ⟨options, [], [], []⟩

/-- The stage that a loader is in. -/
def stage (l : Loader) : Stage := l.entered.getLast?.getD .fresh

/-- Something that a loader does; it may end the load with problems. -/
def Step (α : Type) : Type := Loader → Except (List Problem) α × Loader

namespace Step

variable {α β : Type}

def of (a : α) : Step α := fun l => (.ok a, l)

/-- What ends the load leaves the rest undone. -/
def andThen (m : Step α) (f : α → Step β) : Step β := fun l =>
  match m l with
  | (.ok a, l) => f a l
  | (.error problems, l) => (.error problems, l)

instance : Monad Step where
  pure := of
  bind := andThen

/-- The options of the load. -/
def options : Step Options := fun l => (.ok l.options, l)

def enter (next : Stage) : Step Unit := fun l => (.ok (), { l with entered := l.entered ++ [next] })

/-- Gathers problems. -/
def gather (problems : List Problem) : Step Unit := fun l =>
  (.ok (), { l with pending := l.pending ++ problems })

def warn (warnings : List Unused) : Step Unit := fun l =>
  (.ok (), { l with warned := l.warned ++ warnings })

/-- A load never fails without a problem. -/
def answer (problems : List Problem) : List Problem :=
  if problems.isEmpty then [.sceneViolation .unexplained] else problems

/-- Ends the load with problems and with those that were gathered. -/
def fail (problems : List Problem) : Step α := fun l =>
  (.error (answer (problems ++ l.pending)),
    { l with entered := l.entered ++ [.failed], pending := [] })

/-- Ends the load if problems were gathered. -/
def checkpoint : Step Unit := fun l => if l.pending.isEmpty then (.ok (), l) else fail [] l

/-- A result that the load cannot go on without. -/
def orFail : Except (List Problem) α → Step α
  | .ok a => of a
  | .error problems => fail problems

/-- The table of parameters with the overrides applied. -/
def parameters (root : Markup.Element) : Step Parameter.Table := do
  let (params, defaultProblems) := Parameter.Table.ofRoot root
  gather defaultProblems
  let (params, overrideProblems) := params.overrideAll (← options).overrides
  gather overrideProblems
  return params

/-- The objects of the nodes of a description. -/
def instantiation (params : Parameter.Table) (root : Markup.Element) : Step Instantiation := do
  let forest := Node.readForest params 0 root.children
  gather forest.problems
  enter .resolving
  let (inst, findings) := Instantiation.run forest.value
  let strict := (← options).strict
  warn (Finding.warnings strict findings)
  gather (Finding.problems strict findings)
  return inst

/-- A load from its first stage to its last. -/
def scene (source : String) : Step Scene := do
  enter .readingDefaults
  let root ← orFail ((Markup.read source).mapError fun f => [.notWellFormed f.location f.fault])
  let version ← orFail ((readVersion root).mapError fun p => [p])
  let params ← parameters root
  checkpoint
  enter .readingNodes
  let inst ← instantiation params root
  checkpoint
  enter .validating
  let scene ← orFail (Assembly.assemble version params inst)
  enter .ready
  return scene

end Step

/-- Loads a text, unless the loader has loaded one before. -/
def load (l : Loader) (source : String) : Loader × Run :=
  if l.stage = .fresh then
    let (result, l) := Step.scene source l
    (l, ⟨l.entered, l.warned, result⟩)
  else (l, ⟨[], [], .error [.sceneViolation (.alreadyLoaded l.stage)]⟩)

/-- One call after another. -/
def loadAll (l : Loader) : List String → Loader × List Run
  | [] => (l, [])
  | source :: sources =>
    let (l, run) := l.load source
    let (l, runs) := l.loadAll sources
    (l, run :: runs)

end Loader

end SceneGraph
