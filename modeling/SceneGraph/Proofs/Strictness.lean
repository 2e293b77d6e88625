import SceneGraph.Proofs.History
import SceneGraph.Proofs.Success

/-!
# What strictness changes

Strictness decides what becomes of a property that no plugin asked for, and nothing else.  This
rests on two facts about building.

    what has been reported is not looked at      (build_behind, buildAll_behind)
    only unused properties are reported as such  (run_plain)

By the first, a run has the same objects however its findings are judged, and by the second the
problems that a strict run has more are the warnings of the lenient one, in order.
`Load.text_ok_strict_iff` says what this means for loads.
-/

namespace SceneGraph

/-- The problem is that a property was not asked for. -/
def Problem.isUnusedProperty : Problem → Bool
  | violation _ (.unusedProperty _) => true
  | _ => false

/-- Unused properties stand among the findings as such, and not as problems. -/
def Finding.Plain (fs : List Finding) : Prop := ∀ p, problem p ∈ fs → p.isUnusedProperty = false

/-- An inspection that does not report unused properties of the settings `s` itself. -/
def Inspect.Plain {α : Type} (s : Settings) (m : Inspect α) : Prop :=
  ∀ p ∈ (m s).2.problems, p.isUnusedProperty = false

/-! ## What plugins report -/

namespace Inspect

variable {α β : Type} (s : Settings)

@[simp] theorem plain_pure (a : α) : Plain s (pure a : Inspect α) := fun _ hp => by cases hp

@[simp] theorem plain_bind (m : Inspect α) (f : α → Inspect β) :
    Plain s (m >>= f) ↔ Plain s m ∧ Plain s (f (m s).1) := by
  have hproblems : ((m >>= f) s).2.problems = (m s).2.problems ++ (f (m s).1 s).2.problems := rfl
  rw [Plain, hproblems, List.forall_mem_append]
  rfl

@[simp] theorem plain_node : Plain s node := fun _ hp => by cases hp

@[simp] theorem plain_ask (name : String) : Plain s (ask name) := fun _ hp => by cases hp

@[simp] theorem plain_report (p : Problem) :
    Plain s (report p) ↔ p.isUnusedProperty = false := List.forall_mem_singleton

@[simp] theorem plain_breaks (rule : Violation) :
    Plain s (breaks rule) ↔ (Problem.violation s.node rule).isUnusedProperty = false :=
  List.forall_mem_singleton

@[simp] theorem plain_forbid (bad : Bool) (rule : Violation) :
    Plain s (forbid bad rule) ↔
      (bad = true → (Problem.violation s.node rule).isUnusedProperty = false) := by
  cases bad with
  | false => exact iff_of_true (plain_pure s ()) (by simp)
  | true => exact (plain_breaks s rule).trans (by simp)

@[simp] theorem plain_missing (name : String) : Plain s (missing name) := by
  intro p hp
  simp only [missing] at hp
  split at hp
  · cases hp
  · rw [List.mem_singleton.mp hp]
    rfl

@[simp] theorem plain_accepted (p : Property) (expected : Expected) (accept : Value → Option α) :
    Plain s (accepted p expected accept) := by
  unfold accepted
  split
  · exact plain_pure s _
  · exact (plain_bind s _ _).mpr ⟨(plain_report s _).mpr rfl, plain_pure s _⟩

@[simp] theorem plain_value? (name : String) (expected : Expected) (accept : Value → Option α) :
    Plain s (value? name expected accept) := by
  refine (plain_bind s _ _).mpr ⟨plain_ask s name, ?_⟩
  split
  · exact plain_pure s _
  · exact plain_accepted s _ expected accept

@[simp] theorem plain_required? (name : String) (expected : Expected)
    (accept : Value → Option α) : Plain s (required? name expected accept) := by
  refine (plain_bind s _ _).mpr ⟨plain_ask s name, ?_⟩
  split
  · exact (plain_bind s _ _).mpr ⟨plain_missing s name, plain_pure s _⟩
  · exact plain_accepted s _ expected accept

@[simp] theorem plain_count (name : String) (d : Nat) : Plain s (count name d) := by
  refine (plain_bind s _ _).mpr ⟨plain_value? s _ _ _, ?_⟩
  split
  · exact plain_pure s _
  · split <;> simp [Problem.isUnusedProperty]

end Inspect

namespace Plugin

open Inspect

variable (s : Settings)

@[simp] theorem plain_refraction (property : String) (d : Float32) :
    Plain s (refraction property d) := by
  refine (plain_bind s _ _).mpr ⟨plain_value? s _ _ _, ?_⟩
  split <;> simp [Problem.isUnusedProperty]

@[simp] theorem plain_placeVolumes (sides : Sides) (items : List (Attachment × VolumeHandle)) :
    Plain s (placeVolumes sides items) := by
  induction items generalizing sides with
  | nil => exact plain_pure s sides
  | cons item rest ih =>
    unfold placeVolumes
    split
    · simp [ih, Problem.isUnusedProperty]
    · split <;> simp [ih, Problem.isUnusedProperty]

@[simp] theorem plain_twoSidedPlugin (children : Attached) :
    Plain s (twoSidedPlugin.build children) := by
  unfold twoSidedPlugin
  dsimp only
  split <;> simp [Problem.isUnusedProperty]

theorem plain_viewPlugins : ∀ p ∈ viewPlugins, ∀ children, Plain s (p.build children) := by
  simp [viewPlugins, integratorPlugin, pathSettings, directSettings, sensorPlugin,
    perspectiveSettings, samplerPlugin, filmPlugin, formatName, filterPlugin, gaussianSettings,
    float, integer, boolean, text, transform, Problem.isUnusedProperty]

theorem plain_materialPlugins : ∀ p ∈ materialPlugins, ∀ children, Plain s (p.build children) := by
  simp [materialPlugins, bsdfPlugin, diffuseSettings, principledSettings, dielectricSettings,
    conductorSettings, plasticSettings, homogeneousPlugin, float, text, rgb, rgb?, Inspect.spectrum,
    requiredRgb, Problem.isUnusedProperty]

theorem plain_bodyPlugins : ∀ p ∈ bodyPlugins, ∀ children, Plain s (p.build children) := by
  simp [bodyPlugins, emitterPlugin, pointSettings, directionalSettings, envmapSettings,
    shapePlugin, meshSettings, sphereSettings, float, boolean, Inspect.spectrum, point, transform,
    requiredText, requiredVector, Problem.isUnusedProperty]

theorem plain_of_find? {kind : NodeKind} {type : String} {p : Plugin}
    (h : find? kind type = some p) (children : Attached) : Plain s (p.build children) :=
  forall_of_find? (P := fun p => ∀ children, Plain s (p.build children)) (plain_viewPlugins s)
    (plain_materialPlugins s) (plain_bodyPlugins s) h children

end Plugin

/-! ## What a run reports -/

namespace Finding

theorem plain_append {fs gs : List Finding} (hf : Plain fs) (hg : Plain gs) : Plain (fs ++ gs) :=
  fun p hp => (List.mem_append.mp hp).elim (hf p) (hg p)

theorem plain_singleton {p : Problem} (h : p.isUnusedProperty = false) : Plain [problem p] := by
  intro q hq
  rw [problem.inj (List.mem_singleton.mp hq)]
  exact h

/-- The problems of a strict judgement are those of a lenient one and the unused properties. -/
theorem problems_strict {fs : List Finding} (h : Plain fs) :
    (problems true fs).filter (fun p => !p.isUnusedProperty) = problems false fs ∧
      (problems true fs).filter (·.isUnusedProperty) =
        (warnings false fs).map Unused.problem := by
  induction fs with
  | nil => exact ⟨rfl, rfl⟩
  | cons f fs ih =>
    obtain ⟨hkept, hunused⟩ := ih fun p hp => h p (List.mem_cons_of_mem _ hp)
    cases f with
    | problem p =>
      have hp : p.isUnusedProperty = false := h p List.mem_cons_self
      have hstrict : problems true (problem p :: fs) = p :: problems true fs := rfl
      rw [hstrict, List.filter_cons_of_pos (by simp [hp]), List.filter_cons_of_neg (by simp [hp]),
        hkept, hunused]
      exact ⟨rfl, rfl⟩
    | unused u =>
      have hu : u.problem.isUnusedProperty = true := rfl
      have hstrict : problems true (unused u :: fs) = u.problem :: problems true fs := rfl
      rw [hstrict, List.filter_cons_of_neg (by simp [hu]), List.filter_cons_of_pos hu, hkept,
        hunused]
      exact ⟨rfl, rfl⟩

theorem warnings_strict (fs : List Finding) : warnings true fs = [] := by
  rw [warnings, List.filterMap_eq_nil_iff]
  intro f _
  cases f <;> rfl

/-- A strict judgement is content when a lenient one is and has no warning. -/
theorem problems_strict_eq_nil {fs : List Finding} :
    problems true fs = [] ↔ problems false fs = [] ∧ warnings false fs = [] := by
  simp only [problems, warnings, List.filterMap_eq_nil_iff, ← forall₂_and]
  refine forall₂_congr fun f _ => ?_
  cases f <;> simp [problem?, warning?]

end Finding

namespace Instantiation

open Finding (Plain plain_append plain_singleton)

theorem inspect_plain {n : Node} {p : Plugin} (h : Plugin.find? n.kind n.type = some p)
    (children : Attached) : Plain (inspect p n children).2 := by
  intro q hq
  simp only [inspect, List.mem_append, List.mem_map] at hq
  rcases hq with (⟨q', hq', hqq⟩ | ⟨q', hq', hqq⟩) | ⟨u, -, hu⟩
  · obtain rfl := Finding.problem.inj hqq
    exact Plugin.plain_of_find? _ h children q' hq'
  · obtain rfl := Finding.problem.inj hqq
    obtain ⟨item, -, rfl⟩ := List.mem_map.mp hq'
    rfl
  · cases hu

theorem conclude_plain (n : Node) (g : Gathered) {s : State} (hs : Plain s.findings) :
    Plain (conclude n g s).2.findings := by
  unfold conclude
  split
  · exact hs
  · obtain ⟨-, h⟩ | ⟨p, fs, hp, hi, h⟩ | ⟨p, product, fs, hp, hi, h⟩ := finish_cases n g.attached s
    · rw [h]
      exact plain_append hs (plain_singleton rfl)
    · have hfs := inspect_plain hp g.attached
      rw [hi] at hfs
      rw [h]
      exact plain_append hs hfs
    · have hfs := inspect_plain hp g.attached
      rw [hi] at hfs
      rw [h]
      exact plain_append hs hfs

theorem lookedUp_plain {s : State} (hs : Plain s.findings) (r : Reference) :
    Plain (s.lookedUp (s.registry.resolve r.id r.location)).findings := by
  cases h : s.registry.resolve r.id r.location with
  | ok target => exact hs
  | error p =>
    obtain ⟨reason, rfl⟩ := resolve_error h
    exact plain_append hs (plain_singleton rfl)

mutual

theorem build_plain {s : State} (hs : Plain s.findings) : ∀ n, Plain (build s n).2.findings
  | ⟨index, kind, type, id, name, location, properties, children, invalid⟩ => by
    by_cases h : s.registry.isDuplicate index = true
    · rw [build_of_duplicate h]
      exact hs
    · rw [build_state_of_first (Bool.eq_false_iff.mpr h), publish_findings]
      exact conclude_plain _ _ (buildChildren_plain hs children)

theorem buildChildren_plain {s : State} (hs : Plain s.findings) :
    ∀ cs, Plain (buildChildren s cs).2.findings
  | [] => hs
  | .nested n :: cs => by
    rw [buildChildren_nested]
    exact buildChildren_plain (build_plain hs n) cs
  | .reference r :: cs => by
    rw [buildChildren_reference]
    exact buildChildren_plain (lookedUp_plain hs r) cs

end

theorem buildAll_plain (forest : List Node) :
    ∀ {s : State}, Plain s.findings → Plain (buildAll s forest).2.findings := by
  induction forest with
  | nil => exact fun hs => hs
  | cons n ns ih =>
    intro s hs
    rw [buildAll_cons]
    exact ih (build_plain hs n)

/-- A run reports unused properties as such. -/
theorem run_plain (forest : List Node) : Plain (run forest).2 := by
  rw [run_eq]
  refine buildAll_plain forest fun p hp => ?_
  obtain ⟨q, hq, hqp⟩ := List.mem_map.mp hp
  obtain ⟨id, first, second, rfl⟩ := declareAll_problems _ forest q hq
  rw [← Finding.problem.inj hqp]
  rfl

/-! ## What has been reported before -/

/-- The state in which `fs` has been reported before everything else. -/
def State.behind (fs : List Finding) (s : State) : State := { s with findings := fs ++ s.findings }

theorem add_behind (fs gs : List Finding) (s : State) :
    (s.behind fs).add gs = (s.add gs).behind fs := by
  simp [State.add, State.behind]

theorem publish_behind (fs : List Finding) (s : State) (id : Option String) (index : Nat)
    (outcome : Outcome) :
    (s.behind fs).publish id index outcome = (s.publish id index outcome).behind fs := by
  cases id <;> rfl

theorem lookedUp_behind (fs : List Finding) (s : State) (t : Except Problem (Option Object)) :
    (s.behind fs).lookedUp t = (s.lookedUp t).behind fs := by
  cases t with
  | ok target => rfl
  | error p => exact add_behind fs _ s

theorem finish_behind (fs : List Finding) (n : Node) (children : Attached) (s : State) :
    finish n children (s.behind fs) =
      ((finish n children s).1, (finish n children s).2.behind fs) := by
  unfold finish
  split
  · rw [add_behind]
  · split
    · rw [add_behind]
    · rw [add_behind]
      rfl

theorem conclude_behind (fs : List Finding) (n : Node) (g : Gathered) (s : State) :
    conclude n g (s.behind fs) = ((conclude n g s).1, (conclude n g s).2.behind fs) := by
  unfold conclude
  split
  · rfl
  · exact finish_behind fs n g.attached s

mutual

/-- Building a node does not look at what has been reported before. -/
theorem build_behind (fs : List Finding) (s : State) :
    ∀ n, build (s.behind fs) n = ((build s n).1, (build s n).2.behind fs)
  | ⟨index, kind, type, id, name, location, properties, children, invalid⟩ => by
    by_cases h : s.registry.isDuplicate index = true
    · have hbehind : (s.behind fs).registry.isDuplicate index = true := h
      rw [build_of_duplicate h, build_of_duplicate hbehind]
    · have hfirst : s.registry.isDuplicate index = false := Bool.eq_false_iff.mpr h
      have hbehind : (s.behind fs).registry.isDuplicate index = false := hfirst
      rw [build_of_first hfirst, build_of_first hbehind]
      simp only [buildChildren_behind fs s children, conclude_behind, publish_behind]

theorem buildChildren_behind (fs : List Finding) (s : State) :
    ∀ cs, buildChildren (s.behind fs) cs =
      ((buildChildren s cs).1, (buildChildren s cs).2.behind fs)
  | [] => rfl
  | .nested n :: cs => by
    rw [buildChildren_nested, buildChildren_nested, build_behind fs s n]
    simp only [buildChildren_behind fs _ cs]
  | .reference r :: cs => by
    have hresolve : (s.behind fs).registry.resolve r.id r.location =
        s.registry.resolve r.id r.location := rfl
    rw [buildChildren_reference, buildChildren_reference, hresolve]
    simp only [lookedUp_behind, buildChildren_behind fs _ cs]

end

theorem buildAll_behind (fs : List Finding) (forest : List Node) (s : State) :
    buildAll (s.behind fs) forest = ((buildAll s forest).1, (buildAll s forest).2.behind fs) := by
  induction forest generalizing s with
  | nil => rfl
  | cons n ns ih =>
    rw [buildAll_cons, buildAll_cons, build_behind]
    simp only [ih]

end Instantiation

/-! ## Top theorem -/

namespace Load

open Markup

theorem text_warnings {options : Options} {source : String} {root : Element} {scene : Scene}
    (hread : read source = .ok root) (h : Succeeds options root scene) :
    (text options source).warnings =
      Finding.warnings options.strict (Instantiation.run (forest options root).value).2 := by
  have hnodes : ∀ version, (nodes options version (parameters options root) root).warnings =
      Finding.warnings options.strict (Instantiation.run (forest options root).value).2 := by
    intro version
    rw [nodes]
    dsimp only
    rw [← forest]
    split
    · split <;> rfl
    · rfl
  obtain ⟨version, hversion, -⟩ := h.scene
  rw [text_of_read hread, Load.root, hversion]
  dsimp only
  rw [h.defaults, h.overrides]
  exact hnodes version

theorem succeeds_strict_iff {overrides : List (String × String)} {root : Element}
    {scene : Scene} :
    Succeeds ⟨overrides, true⟩ root scene ↔ Succeeds ⟨overrides, false⟩ root scene ∧
      Finding.warnings false
        (Instantiation.run (forest ⟨overrides, false⟩ root).value).2 = [] := by
  constructor
  · rintro ⟨hdefaults, hoverrides, hnodes, hobjects, hscene⟩
    obtain ⟨hlenient, hwarnings⟩ := Finding.problems_strict_eq_nil.mp hobjects
    exact ⟨⟨hdefaults, hoverrides, hnodes, hlenient, hscene⟩, hwarnings⟩
  · rintro ⟨⟨hdefaults, hoverrides, hnodes, hobjects, hscene⟩, hwarnings⟩
    exact ⟨hdefaults, hoverrides, hnodes,
      Finding.problems_strict_eq_nil.mpr ⟨hobjects, hwarnings⟩, hscene⟩

/-- A strict load gives a scene when the lenient one gives it without a warning. -/
theorem text_ok_strict_iff (overrides : List (String × String)) (source : String)
    (scene : Scene) :
    (text ⟨overrides, true⟩ source).result = .ok scene ↔
      (text ⟨overrides, false⟩ source).result = .ok scene ∧
        (text ⟨overrides, false⟩ source).warnings = [] := by
  rw [text_ok_iff, text_ok_iff]
  constructor
  · rintro ⟨root, hread, hstrict⟩
    obtain ⟨hlenient, hwarnings⟩ := succeeds_strict_iff.mp hstrict
    exact ⟨⟨root, hread, hlenient⟩, (text_warnings hread hlenient).trans hwarnings⟩
  · rintro ⟨⟨root, hread, hlenient⟩, hwarnings⟩
    rw [text_warnings hread hlenient] at hwarnings
    exact ⟨root, hread, succeeds_strict_iff.mpr ⟨hlenient, hwarnings⟩⟩

end Load

open Instantiation in
/-- **Strictness turns warnings into problems, and does nothing else.**  The objects of a run do
not depend on what is reported.  Judged strictly, a run has the problems that it has otherwise
and between them, in order, one for each warning, and no warning is left.  So a strict load
gives a scene exactly when the lenient one gives this scene without a warning. -/
theorem strict_iff_unwarned :
    (∀ forest : List Node, let (instantiation, findings) := run forest
      (∀ reported, let (roots, final) := buildAll ((initial forest).behind reported) forest
        (⟨roots, final.arena⟩ : Instantiation) = instantiation ∧
          final.findings = reported ++ findings) ∧
      (Finding.problems true findings).filter (fun p => !p.isUnusedProperty) =
        Finding.problems false findings ∧
      (Finding.problems true findings).filter (·.isUnusedProperty) =
        (Finding.warnings false findings).map Unused.problem ∧
      Finding.warnings true findings = []) ∧
    ∀ overrides source scene,
      (Load.text ⟨overrides, true⟩ source).result = .ok scene ↔
        (Load.text ⟨overrides, false⟩ source).result = .ok scene ∧
          (Load.text ⟨overrides, false⟩ source).warnings = [] := by
  refine ⟨fun forest => ?_, Load.text_ok_strict_iff⟩
  obtain ⟨hkept, hunused⟩ := Finding.problems_strict (run_plain forest)
  refine ⟨fun reported => ?_, hkept, hunused, Finding.warnings_strict _⟩
  rw [buildAll_behind]
  exact ⟨rfl, rfl⟩

end SceneGraph
