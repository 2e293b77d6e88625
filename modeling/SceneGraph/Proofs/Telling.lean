import SceneGraph.Proofs.Strictness

/-!
# What the events of a run report

What a run finds is what the events of its history report, in order, behind the problems of the
declarations (`run_told`).  A reference that is refused reports its problem, and the end of a node
that is not aborted what its plugin finds; nothing else reports anything.

So the problems of a run are those of its events, and so are its warnings, which only the ends of
nodes give (`run_problems`, `run_warnings`).
-/

namespace SceneGraph.Instantiation

/-- What is found about a node with these children. -/
def inspected (n : Node) (children : Attached) : List Finding :=
  match Plugin.find? n.kind n.type with
  | none => [.problem (.unknownType n.kind n.type n.location)]
  | some p => (inspect p n children).2

namespace Event

/-- What an event reports. -/
def told : Event → List Finding
  | opened _ => []
  | referred _ _ (.ok _) => []
  | referred _ _ (.error p) => [.problem p]
  | closed n g outcome => if outcome = .aborted then [] else inspected n g.attached

end Event

/-! ## Lemmas -/

theorem lookedUp_told (s : State) (parent : Node) (r : Reference)
    (target : Except Problem (Option Object)) :
    (s.lookedUp target).findings = s.findings ++ (Event.referred parent r target).told := by
  cases target with
  | ok o => exact (List.append_nil _).symm
  | error p => rfl

theorem conclude_told (n : Node) (g : Gathered) (s : State) :
    (conclude n g s).2.findings =
      s.findings ++ (Event.closed n g (conclude n g s).1).told := by
  have hfinish : ∀ outcome, outcome ≠ .aborted →
      (Event.closed n g outcome).told = inspected n g.attached := fun _ h => if_neg h
  unfold conclude
  split
  · exact (List.append_nil _).symm
  · obtain ⟨hp, h⟩ | ⟨p, fs, hp, hi, h⟩ | ⟨p, product, fs, hp, hi, h⟩ := finish_cases n g.attached s
    · rw [h, hfinish .failed nofun, inspected, hp]
      rfl
    · rw [h, hfinish .failed nofun, inspected, hp]
      simp only [hi]
      rfl
    · have hend : (if g.attached.failed.isEmpty then Outcome.built (s.arena.store n.id product).1
          else .failed) ≠ .aborted := by split <;> exact nofun
      rw [h, hfinish _ hend, inspected, hp]
      simp only [hi]
      rfl

mutual

/-- Building a node finds what the events in it report. -/
theorem build_told (s : State) :
    ∀ n, (build s n).2.findings = s.findings ++ (history s n).flatMap Event.told
  | ⟨index, kind, type, id, name, location, properties, children, invalid⟩ => by
    by_cases h : s.registry.isDuplicate index = true
    · rw [build_of_duplicate h, history_of_duplicate h]
      exact (List.append_nil _).symm
    · have hfirst := Bool.eq_false_iff.mpr h
      rw [build_state_of_first hfirst, history_of_first hfirst, publish_findings, conclude_told,
        ← build_outcome_of_first hfirst, buildChildren_told s
          ⟨index, kind, type, id, name, location, properties, children, invalid⟩ children,
        List.flatMap_cons, List.flatMap_append, List.flatMap_singleton, List.append_assoc]
      rfl

theorem buildChildren_told (s : State) (parent : Node) :
    ∀ cs, (buildChildren s cs).2.findings =
      s.findings ++ (historyChildren s parent cs).flatMap Event.told
  | [] => (List.append_nil _).symm
  | .nested n :: cs => by
    rw [buildChildren_nested, historyChildren, buildChildren_told _ parent cs, build_told s n,
      List.flatMap_append, List.append_assoc]
  | .reference r :: cs => by
    rw [buildChildren_reference, historyChildren, List.flatMap_cons, ← List.append_assoc,
      ← lookedUp_told]
    exact buildChildren_told _ parent cs

end

theorem buildAll_told (s : State) (forest : List Node) :
    (buildAll s forest).2.findings = s.findings ++ (historyAll s forest).flatMap Event.told := by
  induction forest generalizing s with
  | nil => exact (List.append_nil _).symm
  | cons n ns ih =>
    rw [buildAll_cons, historyAll, List.flatMap_append, ← List.append_assoc, ← build_told]
    exact ih _

/-- A run finds what its events report. -/
theorem run_told (forest : List Node) :
    (run forest).2 = (declareAll Registry.empty forest).2.map .problem ++
      (runHistory forest).flatMap Event.told := by
  rw [run_eq]
  exact buildAll_told (initial forest) forest

/-- Problems are judged as such, and unused properties as warnings. -/
theorem judged (ps : List Problem) (us : List Unused) :
    Finding.problems false (ps.map .problem ++ us.map .unused) = ps ∧
      Finding.warnings false (ps.map .problem ++ us.map .unused) = us := by
  simp [Finding.problems, Finding.warnings, List.filterMap_map, Function.comp_def,
    Finding.problem?, Finding.warning?]

theorem run_problems (forest : List Node) :
    Finding.problems false (run forest).2 = (declareAll Registry.empty forest).2 ++
      (runHistory forest).flatMap fun e => Finding.problems false e.told := by
  have hdeclared := (judged (declareAll Registry.empty forest).2 []).1
  rw [List.map_nil, List.append_nil] at hdeclared
  rw [run_told, Finding.problems, List.filterMap_append, List.filterMap_flatMap]
  exact congrArg (· ++ _) hdeclared

theorem run_warnings (forest : List Node) :
    Finding.warnings false (run forest).2 =
      (runHistory forest).flatMap fun e => Finding.warnings false e.told := by
  have hdeclared := (judged (declareAll Registry.empty forest).2 []).2
  rw [List.map_nil, List.append_nil] at hdeclared
  rw [run_told, Finding.warnings, List.filterMap_append, List.filterMap_flatMap]
  exact congrArg (· ++ _) hdeclared

/-- Of a node its plugin's problems and the refused children are problems, and the properties that
the plugin does not use are warned of. -/
theorem inspect_judged (p : Plugin) (n : Node) (children : Attached) :
    Finding.problems false (inspect p n children).2 =
        (p.build children n.settings).2.problems ++ refusals n.kind p.accepts children ∧
      Finding.warnings false (inspect p n children).2 =
        unused n.ref (p.build children n.settings).2.asked [] n.properties := by
  have hjudged := judged ((p.build children n.settings).2.problems ++
    refusals n.kind p.accepts children)
    (unused n.ref (p.build children n.settings).2.asked [] n.properties)
  rw [List.map_append] at hjudged
  exact hjudged

/-- If no two properties have one name, the unused ones are those that were not asked for. -/
theorem unused_of_nodup (r : NodeRef) (asked : List String) (ps : List Property) :
    ∀ earlier, (∀ p ∈ ps, p.name ∉ earlier) → (ps.map (·.name)).Nodup →
      unused r asked earlier ps =
        (ps.filter fun p => !asked.contains p.name).map fun p => ⟨r, p.name, p.location⟩ := by
  induction ps with
  | nil => exact fun _ _ _ => rfl
  | cons p ps ih =>
    intro earlier hnew hnodup
    rw [List.map_cons, List.nodup_cons] at hnodup
    have hrest := ih (p.name :: earlier) (fun q hq => ?_) hnodup.2
    · have hp : p.name ∉ earlier := hnew p List.mem_cons_self
      rw [unused, hrest]
      by_cases hasked : p.name ∈ asked
      · simp [hasked, hp]
      · simp [hasked]
    · rw [List.mem_cons, not_or]
      refine ⟨fun hname => hnodup.1 ?_, hnew q (List.mem_cons_of_mem _ hq)⟩
      rw [← hname]
      exact List.mem_map_of_mem hq

end SceneGraph.Instantiation
