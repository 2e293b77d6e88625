import SceneGraph.Loader
import SceneGraph.Proofs.Offenders

/-!
# A loader runs once

A loader gathers problems and answers for them at its checkpoints, while `Load.text` says in one
piece what a load comes to.  The two agree (`load_new`), so the courses of a load are those of a
loader's first call: it only moves forward, ends ready or failed, and fails with the problems of
one phase.  All later calls are refused and change nothing (`loadAll_once`).
-/

namespace SceneGraph

open Markup

namespace Loader

/-- The answer to a call behind the first one. -/
def refusal (l : Loader) : Run := ⟨[], [], .error [.sceneViolation (.alreadyLoaded l.stage)]⟩

/-! ## Steps -/

namespace Step

variable {α β : Type} (l : Loader)

theorem bind_apply (m : Step α) (f : α → Step β) : (m >>= f) l =
    match m l with
    | (.ok a, l) => f a l
    | (.error problems, l) => (.error problems, l) := rfl

/-- Problems answer for themselves. -/
theorem answer_of_ne {problems : List Problem} (h : problems ≠ []) : answer problems = problems :=
  if_neg (mt List.isEmpty_iff.mp h)

/-- A load that ends with problems of a step leaves those that were gathered behind. -/
theorem fail_apply {problems : List Problem} (h : problems ++ l.pending ≠ []) :
    (fail problems : Step α) l = (.error (problems ++ l.pending),
      { l with entered := l.entered ++ [.failed], pending := [] }) := by
  rw [fail, answer_of_ne h]

theorem checkpoint_apply :
    checkpoint l = if l.pending.isEmpty then (.ok (), l)
      else (.error l.pending, { l with entered := l.entered ++ [.failed], pending := [] }) := by
  unfold checkpoint
  split
  · rfl
  · next hempty => exact fail_apply l (mt List.isEmpty_iff.mpr hempty)

theorem parameters_apply (options : Options) (entered : List Stage) (pending : List Problem)
    (warned : List Unused) (root : Element) :
    parameters root ⟨options, entered, pending, warned⟩ = (.ok (Load.parameters options root),
      ⟨options, entered, pending ++ Load.parameterProblems options root, warned⟩) := by
  rw [Load.parameterProblems_eq, ← List.append_assoc]
  rfl

theorem instantiation_apply (options : Options) (entered : List Stage) (pending : List Problem)
    (warned : List Unused) (root : Element) :
    instantiation (Load.parameters options root) root ⟨options, entered, pending, warned⟩ =
      (.ok (Load.built options root).1,
        ⟨options, entered ++ [.resolving], pending ++ Load.nodeProblems options root,
          warned ++ Load.nodeWarnings options root⟩) := by
  rw [Load.nodeProblems, ← List.append_assoc]
  rfl

end Step

/-! ## The first call -/

variable (options : Options) (source : String)

/-- A new loader does what a load comes to, and has no problem left. -/
theorem scene_new : Step.scene source (new options) =
    ((Load.text options source).result,
      ⟨options, (Load.text options source).stages, [], (Load.text options source).warnings⟩) := by
  have hcourse := Load.course_text options source
  generalize Load.text options source = run at hcourse
  unfold Step.scene
  cases hcourse with
  | text hread =>
    simp only [Step.bind_apply, Step.enter, hread, Except.mapError, Step.orFail]
    rfl
  | version hread hversion =>
    simp only [Step.bind_apply, Step.enter, hread, hversion, Except.mapError, Step.orFail, Step.of]
    rfl
  | parameters hread hversion hparams =>
    have hempty := mt List.isEmpty_iff.mp hparams
    simp only [Step.bind_apply, Step.enter, hread, hversion, Except.mapError, Step.orFail, Step.of,
      Step.parameters_apply, Step.checkpoint_apply, new, List.nil_append, if_neg hempty]
    rfl
  | nodes hread hversion hparams hnodes =>
    have hempty := mt List.isEmpty_iff.mp hnodes
    simp only [Step.bind_apply, Step.enter, hread, hversion, Except.mapError, Step.orFail, Step.of,
      Step.parameters_apply, Step.checkpoint_apply, new, List.nil_append, hparams, List.isEmpty_nil,
      if_true, Step.instantiation_apply, if_neg hempty]
    rfl
  | scene hread hversion hparams hnodes hscene =>
    have hne := (Assembly.assemble_error hscene).1
    simp only [Step.bind_apply, Step.enter, hread, hversion, Except.mapError, Step.orFail, Step.of,
      Step.parameters_apply, Step.checkpoint_apply, new, List.nil_append, hparams, List.isEmpty_nil,
      if_true, Step.instantiation_apply, hnodes, hscene, Step.fail, List.append_nil,
      Step.answer_of_ne hne]
    rfl
  | ready hread hversion hparams hnodes hscene =>
    simp only [Step.bind_apply, Step.enter, hread, hversion, Except.mapError, Step.orFail, Step.of,
      Step.parameters_apply, Step.checkpoint_apply, new, List.nil_append, hparams, List.isEmpty_nil,
      if_true, Step.instantiation_apply, hnodes, hscene]
    rfl

theorem load_of_fresh {l : Loader} (h : l.stage = .fresh) (source : String) :
    l.load source = ((Step.scene source l).2,
      ⟨(Step.scene source l).2.entered, (Step.scene source l).2.warned,
        (Step.scene source l).1⟩) := if_pos h

theorem load_of_not_fresh {l : Loader} (h : l.stage ≠ .fresh) (source : String) :
    l.load source = (l, l.refusal) := if_neg h

theorem load_new : (new options).load source =
    (⟨options, (Load.text options source).stages, [], (Load.text options source).warnings⟩,
      Load.text options source) := by
  rw [load_of_fresh rfl, scene_new]

/-! ## Courses -/

variable {options source} {run : Run}

/-- A load enters later and later stages. -/
theorem course_forward (h : Load.Course options source run) :
    (Stage.fresh :: run.stages).Pairwise fun a b => a.rank < b.rank := by
  have hfirst : [Stage.fresh, .readingDefaults, .failed].Pairwise fun a b => a.rank < b.rank := by
    decide
  have hnodes : [Stage.fresh, .readingDefaults, .readingNodes, .resolving, .failed].Pairwise
      fun a b => a.rank < b.rank := by decide
  have hscene : [Stage.fresh, .readingDefaults, .readingNodes, .resolving, .validating,
      .failed].Pairwise fun a b => a.rank < b.rank := by decide
  have hready : [Stage.fresh, .readingDefaults, .readingNodes, .resolving, .validating,
      .ready].Pairwise fun a b => a.rank < b.rank := by decide
  cases h with
  | text => exact hfirst
  | version => exact hfirst
  | parameters => exact hfirst
  | nodes => exact hnodes
  | scene => exact hscene
  | ready => exact hready

theorem course_ready_iff (h : Load.Course options source run) :
    (∃ scene, run.result = .ok scene) ↔ run.final = .ready := by
  cases h with
  | ready => exact iff_of_true ⟨_, rfl⟩ rfl
  | _ => exact iff_of_false (fun h => nomatch h) (fun h => nomatch h)

/-- A load that fails is failed, and shows problems for it. -/
theorem course_failed (h : Load.Course options source run) {problems : List Problem}
    (hproblems : run.result = .error problems) : run.final = .failed ∧ problems ≠ [] := by
  cases h with
  | ready => cases hproblems
  | text =>
    obtain rfl := Except.error.inj hproblems
    exact ⟨rfl, List.cons_ne_nil _ _⟩
  | version =>
    obtain rfl := Except.error.inj hproblems
    exact ⟨rfl, List.cons_ne_nil _ _⟩
  | parameters hread hversion hparams =>
    obtain rfl := Except.error.inj hproblems
    exact ⟨rfl, hparams⟩
  | nodes hread hversion hparams hnodes =>
    obtain rfl := Except.error.inj hproblems
    exact ⟨rfl, hnodes⟩
  | scene hread hversion hparams hnodes hscene =>
    obtain rfl := Except.error.inj hproblems
    exact ⟨rfl, (Assembly.assemble_error hscene).1⟩

/-- The problems that a load shows are its own. -/
theorem text_explained {problems : List Problem}
    (h : (Load.text options source).result = .error problems) :
    .sceneViolation .unexplained ∉ problems := by
  cases hread : Markup.read source with
  | error f =>
    rw [Load.text, hread] at h
    obtain rfl := Except.error.inj h
    intro hmem
    cases List.mem_singleton.mp hmem
  | ok root => exact fun hmem => (Load.text_traced hread h _ hmem).explained rfl

/-! ## All calls -/

theorem loadAll_of_not_fresh {l : Loader} (h : l.stage ≠ .fresh) (sources : List String) :
    l.loadAll sources = (l, sources.map fun _ => l.refusal) := by
  induction sources with
  | nil => rfl
  | cons source sources ih =>
    rw [loadAll, load_of_not_fresh h]
    simp only [ih, List.map_cons]

/-- **A loader runs once.**  Its first call takes one of the courses of a load: it enters later and
later stages, ends ready exactly if there is a scene, and otherwise ends failed with the problems
of one phase, never for want of a problem.  Every later call leaves the loader as it is and is
refused, and nothing else is reported. -/
theorem loadAll_once (options : Options) (source : String) (later : List String) :
    ∃ l run, (new options).load source = (l, run) ∧
      (new options).loadAll (source :: later) = (l, run :: later.map fun _ => l.refusal) ∧
      (∀ again, l.load again = (l, l.refusal)) ∧
      l.entered = run.stages ∧ ((new options).stage :: run.stages).Pairwise (·.rank < ·.rank) ∧
      ((∃ scene, run.result = .ok scene) ↔ l.stage = .ready) ∧
      (∀ problems, run.result = .error problems →
        l.stage = .failed ∧ problems ≠ [] ∧ .sceneViolation .unexplained ∉ problems) ∧
      Load.Course options source run := by
  have hcourse := Load.course_text options source
  let l : Loader :=
    ⟨options, (Load.text options source).stages, [], (Load.text options source).warnings⟩
  have hload : (new options).load source = (l, Load.text options source) := load_new options source
  have hstage : l.stage = .ready ∨ l.stage = .failed := by
    cases hresult : (Load.text options source).result with
    | ok scene => exact .inl ((course_ready_iff hcourse).mp ⟨scene, hresult⟩)
    | error problems => exact .inr (course_failed hcourse hresult).1
  have hrun : l.stage ≠ .fresh := by
    rcases hstage with h | h <;> simp [h]
  refine ⟨l, Load.text options source, hload, ?_, load_of_not_fresh hrun, rfl,
    course_forward hcourse, course_ready_iff hcourse, fun problems h => ?_, hcourse⟩
  · rw [loadAll, hload]
    simp only [loadAll_of_not_fresh hrun]
  · obtain ⟨hfailed, hne⟩ := course_failed hcourse h
    exact ⟨hfailed, hne, text_explained h⟩

end Loader

end SceneGraph
