import SceneGraph.Proofs.Telling

/-!
# The order of properties does not matter

A plugin looks at properties by their names, so where no two properties of a node have one name
their order decides nothing but the order in which the unused ones are reported.  Two runs on
forests that differ in this way go side by side (`build_reordered`, `buildAll_reordered`): they
have the same registry and arena at every node, the same events, and at the end of each node the
same findings, up to the order of its unused properties (`told_reordered`).
-/

namespace SceneGraph

mutual

/-- The properties of some nodes are in another order.  All else is the same. -/
def Node.Reordered : Node → Node → Prop
  | ⟨index, kind, type, id, name, location, properties, children, invalid⟩, n' =>
    ∃ properties' children',
      n' = ⟨index, kind, type, id, name, location, properties', children', invalid⟩ ∧
        properties.Perm properties' ∧ Child.Reordered children children'

def Child.Reordered : List Child → List Child → Prop
  | [], cs' => cs' = []
  | .nested n :: cs, cs' =>
    ∃ n' ds, cs' = .nested n' :: ds ∧ n.Reordered n' ∧ Child.Reordered cs ds
  | .reference r :: cs, cs' => ∃ ds, cs' = .reference r :: ds ∧ Child.Reordered cs ds

end

/-- No two properties of the node have one name. -/
def Node.Distinct (n : Node) : Prop := (n.properties.map (·.name)).Nodup

namespace Instantiation

/-- The states have the same objects, whatever was found. -/
structure State.Agrees (s t : State) : Prop where
  registry : s.registry = t.registry
  arena : s.arena = t.arena

namespace Event

/-- The properties that an event reports as unused. -/
def warned (e : Event) : List Unused := Finding.warnings false e.told

/-- The events are the same but for the order of properties. -/
inductive Reordered : Event → Event → Prop
  | opened {n n' : Node} : n.Reordered n' → Reordered (.opened n) (.opened n')
  | referred {parent parent' : Node} (r : Reference) (target : Except Problem (Option Object)) :
    parent.Reordered parent' → Reordered (.referred parent r target) (.referred parent' r target)
  | closed {n n' : Node} (g : Gathered) (outcome : Outcome) :
    n.Reordered n' → Reordered (.closed n g outcome) (.closed n' g outcome)

/-- The events are the same but for the order of properties, and so are their reports. -/
structure Matches (e e' : Event) : Prop where
  reordered : e.Reordered e'
  problems : Finding.problems false e.told = Finding.problems false e'.told
  warned : e.warned.Perm e'.warned

end Event

end Instantiation

/-! ## One node -/

/-- Of entries with different keys the one with a key is found in any order. -/
theorem find?_perm {α κ : Type} [DecidableEq κ] (key : α → κ) {xs ys : List α} (h : xs.Perm ys)
    (hdistinct : (xs.map key).Nodup) (k : κ) :
    xs.find? (key · = k) = ys.find? (key · = k) := by
  induction h with
  | nil => rfl
  | cons x _ ih =>
    rw [List.find?_cons, List.find?_cons, ih (List.nodup_cons.mp hdistinct).2]
  | swap x y xs =>
    have hne : key y ≠ key x := by
      rw [List.map_cons, List.nodup_cons] at hdistinct
      exact fun heq => hdistinct.1 (heq ▸ List.mem_cons_self)
    by_cases hx : key x = k
    · have hy : key y ≠ k := fun hy => hne (hy.trans hx.symm)
      simp [hx, hy]
    · simp [List.find?_cons, hx]
  | trans hxy _ ih ih' =>
    rw [ih hdistinct, ih' ((hxy.map _).nodup_iff.mp hdistinct)]

namespace Node.Reordered

variable {n n' : Node}

theorem properties (h : n.Reordered n') : n.properties.Perm n'.properties := by
  cases n
  obtain ⟨properties', children', rfl, hproperties, -⟩ := h
  exact hproperties

theorem ref (h : n.Reordered n') : n'.ref = n.ref := by
  cases n
  obtain ⟨properties', children', rfl, -, -⟩ := h
  rfl

theorem distinct (h : n.Reordered n') (hn : n.Distinct) : n'.Distinct :=
  (h.properties.map _).nodup_iff.mp hn

theorem nested (h : n.Reordered n') (outcome : Outcome) (g : Instantiation.Gathered) :
    g.nested n' outcome = g.nested n outcome := by
  cases n
  obtain ⟨properties', children', rfl, -, -⟩ := h
  rfl

/-- A plugin sees the same of both nodes. -/
theorem settings (h : n.Reordered n') (hn : n.Distinct) : n'.settings = n.settings := by
  have hproperty : n'.property? = n.property? :=
    funext fun name => (find?_perm Property.name h.properties hn name).symm
  have hinvalid : n'.invalid = n.invalid := by
    cases n
    obtain ⟨properties', children', rfl, -, -⟩ := h
    rfl
  rw [Node.settings, Node.settings, h.ref, hproperty, hinvalid]

end Node.Reordered

namespace Instantiation

variable {n n' : Node}

/-- The same is made of both nodes, and found about them up to the order of properties. -/
theorem inspect_reordered (h : n.Reordered n') (hn : n.Distinct) (p : Plugin)
    (children : Attached) :
    (inspect p n' children).1 = (inspect p n children).1 ∧
      Finding.problems false (inspect p n children).2 =
        Finding.problems false (inspect p n' children).2 ∧
      (Finding.warnings false (inspect p n children).2).Perm
        (Finding.warnings false (inspect p n' children).2) := by
  have hkind : n'.kind = n.kind := congrArg NodeRef.kind h.ref
  refine ⟨?_, ?_, ?_⟩
  · rw [inspect, inspect, h.settings hn]
  · rw [(inspect_judged p n children).1, (inspect_judged p n' children).1, h.settings hn, hkind]
  · rw [(inspect_judged p n children).2, (inspect_judged p n' children).2, h.settings hn, h.ref,
      unused_of_nodup _ _ _ [] (fun _ _ => List.not_mem_nil) hn,
      unused_of_nodup _ _ _ [] (fun _ _ => List.not_mem_nil) (h.distinct hn)]
    exact (h.properties.filter _).map _

theorem inspected_reordered (h : n.Reordered n') (hn : n.Distinct) (children : Attached) :
    Finding.problems false (inspected n children) =
        Finding.problems false (inspected n' children) ∧
      (Finding.warnings false (inspected n children)).Perm
        (Finding.warnings false (inspected n' children)) := by
  have hkind : n'.kind = n.kind := congrArg NodeRef.kind h.ref
  have htype : n'.type = n.type := congrArg NodeRef.type h.ref
  have hlocation : n'.location = n.location := congrArg NodeRef.location h.ref
  unfold inspected
  rw [hkind, htype, hlocation]
  cases Plugin.find? n.kind n.type with
  | none => exact ⟨rfl, .refl _⟩
  | some p => exact (inspect_reordered h hn p children).2

/-! ## Events -/

theorem opened_matches (h : n.Reordered n') : (Event.opened n).Matches (.opened n') :=
  ⟨.opened h, rfl, .refl _⟩

theorem referred_matches (h : n.Reordered n') (r : Reference)
    (target : Except Problem (Option Object)) :
    (Event.referred n r target).Matches (.referred n' r target) := by
  cases target with
  | ok object => exact ⟨.referred r _ h, rfl, .refl _⟩
  | error p => exact ⟨.referred r _ h, rfl, .refl _⟩

theorem closed_matches (h : n.Reordered n') (hn : n.Distinct) (g : Gathered) (outcome : Outcome) :
    (Event.closed n g outcome).Matches (.closed n' g outcome) := by
  obtain ⟨hproblems, hwarned⟩ := inspected_reordered h hn g.attached
  by_cases haborted : outcome = .aborted
  · subst haborted
    exact ⟨.closed g _ h, rfl, .refl _⟩
  · have htold : ∀ m, (Event.closed m g outcome).told = inspected m g.attached :=
      fun _ => if_neg haborted
    refine ⟨.closed g _ h, ?_, ?_⟩
    · rw [htold, htold, hproblems]
    · rw [Event.warned, Event.warned, htold, htold]
      exact hwarned

/-! ## Two runs side by side -/

namespace State.Agrees

variable {s t : State}

theorem publish (h : s.Agrees t) (id : Option String) (index : Nat) (outcome : Outcome) :
    (s.publish id index outcome).Agrees (t.publish id index outcome) := by
  refine ⟨?_, ?_⟩
  · cases id with
    | none => exact h.registry
    | some id => rw [publish_registry_some, publish_registry_some, h.registry]
  · rw [publish_arena, publish_arena, h.arena]

theorem lookedUp (h : s.Agrees t) (target : Except Problem (Option Object)) :
    (s.lookedUp target).Agrees (t.lookedUp target) := by
  refine ⟨?_, ?_⟩
  · rw [lookedUp_registry, lookedUp_registry, h.registry]
  · rw [lookedUp_arena, lookedUp_arena, h.arena]

end State.Agrees

theorem finish_reordered (h : n.Reordered n') (hn : n.Distinct) {s t : State} (hst : s.Agrees t)
    (children : Attached) :
    (finish n' children t).1 = (finish n children s).1 ∧
      (finish n children s).2.Agrees (finish n' children t).2 := by
  have hkind : n'.kind = n.kind := congrArg NodeRef.kind h.ref
  have htype : n'.type = n.type := congrArg NodeRef.type h.ref
  have hid : n'.id = n.id := congrArg NodeRef.id h.ref
  unfold finish
  rw [hkind, htype, hid]
  cases Plugin.find? n.kind n.type with
  | none => exact ⟨rfl, hst.registry, hst.arena⟩
  | some p =>
    obtain ⟨hproduct, -⟩ := inspect_reordered h hn p children
    cases hi : inspect p n children with
    | mk product fs =>
      -- the findings differ, but building does not look at them
      have hi' : inspect p n' children = (product, (inspect p n' children).2) := by
        rw [hi] at hproduct
        exact Prod.ext hproduct rfl
      dsimp only
      rw [hi, hi']
      cases product with
      | none => exact ⟨rfl, hst.registry, hst.arena⟩
      | some product =>
        refine ⟨?_, hst.registry, ?_⟩
        · dsimp only
          rw [hst.arena]
        · dsimp only
          rw [hst.arena]

theorem conclude_reordered (h : n.Reordered n') (hn : n.Distinct) {s t : State} (hst : s.Agrees t)
    (g : Gathered) :
    (conclude n' g t).1 = (conclude n g s).1 ∧
      (conclude n g s).2.Agrees (conclude n' g t).2 := by
  unfold conclude
  split
  · exact ⟨rfl, hst⟩
  · exact finish_reordered h hn hst g.attached

mutual

/-- A node and the same node with other orders of properties are built alike. -/
theorem build_reordered {s t : State} (hst : s.Agrees t) :
    ∀ n n', n.Reordered n' → (∀ m ∈ n.preorder, m.Distinct) →
      (build t n').1 = (build s n).1 ∧ (build s n).2.Agrees (build t n').2 ∧
        List.Forall₂ Event.Matches (history s n) (history t n')
  | ⟨index, kind, type, id, name, location, properties, children, invalid⟩, n', h, hdistinct => by
    have hn := h
    obtain ⟨properties', children', rfl, -, hchildren⟩ := h
    -- both runs have declared the same, so the node is a duplicate in both or in neither
    by_cases hdup : s.registry.isDuplicate index = true
    · have hdup' : t.registry.isDuplicate index = true := by rw [← hst.registry, hdup]
      rw [build_of_duplicate hdup', build_of_duplicate hdup, history_of_duplicate hdup,
        history_of_duplicate hdup']
      exact ⟨rfl, hst, .nil⟩
    · have hfirst := Bool.eq_false_iff.mpr hdup
      have hfirst' : t.registry.isDuplicate index = false := by rw [← hst.registry, hfirst]
      rw [Node.preorder_eq] at hdistinct
      obtain ⟨hown, hinner⟩ := List.forall_mem_cons.mp hdistinct
      obtain ⟨hgathered, hstates, hevents⟩ :=
        buildChildren_reordered hst hn children children' hchildren hinner
      obtain ⟨houtcome, hconcluded⟩ :=
        conclude_reordered hn hown hstates (buildChildren s children).1
      have hended : (build t ⟨index, kind, type, id, name, location, properties', children',
          invalid⟩).1 = (build s ⟨index, kind, type, id, name, location, properties, children,
          invalid⟩).1 := by
        rw [build_outcome_of_first hfirst', build_outcome_of_first hfirst]
        dsimp only
        rw [hgathered, houtcome]
      refine ⟨hended, ?_, ?_⟩
      · rw [build_state_of_first hfirst, build_state_of_first hfirst', hended]
        dsimp only
        rw [hgathered]
        exact hconcluded.publish id index _
      · rw [history_of_first hfirst, history_of_first hfirst', hended]
        dsimp only
        rw [hgathered]
        exact .cons (opened_matches hn)
          (List.rel_append hevents (.cons (closed_matches hn hown _ _) .nil))

theorem buildChildren_reordered {s t : State} (hst : s.Agrees t) {parent parent' : Node}
    (hparent : parent.Reordered parent') :
    ∀ cs cs', Child.Reordered cs cs' → (∀ m ∈ Child.preorder cs, m.Distinct) →
      (buildChildren t cs').1 = (buildChildren s cs).1 ∧
        (buildChildren s cs).2.Agrees (buildChildren t cs').2 ∧
        List.Forall₂ Event.Matches (historyChildren s parent cs) (historyChildren t parent' cs')
  | [], _, h, _ => by
    cases h
    exact ⟨rfl, hst, .nil⟩
  | .nested n :: cs, _, h, hdistinct => by
    obtain ⟨n', ds, rfl, hn, hcs⟩ := h
    rw [Child.preorder, List.forall_mem_append] at hdistinct
    obtain ⟨houtcome, hstates, hevents⟩ := build_reordered hst n n' hn hdistinct.1
    obtain ⟨hgathered, hstates', hevents'⟩ :=
      buildChildren_reordered hstates hparent cs ds hcs hdistinct.2
    rw [buildChildren_nested, buildChildren_nested, historyChildren, historyChildren]
    refine ⟨?_, hstates', List.rel_append hevents hevents'⟩
    dsimp only
    rw [hgathered, houtcome, hn.nested]
  | .reference r :: cs, _, h, hdistinct => by
    obtain ⟨ds, rfl, hcs⟩ := h
    rw [Child.preorder] at hdistinct
    have htarget : t.registry.resolve r.id r.location = s.registry.resolve r.id r.location := by
      rw [hst.registry]
    obtain ⟨hgathered, hstates, hevents⟩ :=
      buildChildren_reordered (hst.lookedUp (s.registry.resolve r.id r.location)) hparent cs ds hcs
        hdistinct
    rw [buildChildren_reference, buildChildren_reference, historyChildren, historyChildren, htarget]
    refine ⟨?_, hstates, .cons (referred_matches hparent r _) hevents⟩
    dsimp only
    rw [hgathered]

end

theorem buildAll_reordered {ns ns' : List Node} (h : List.Forall₂ Node.Reordered ns ns') :
    ∀ {s t : State}, s.Agrees t → (∀ n ∈ preorder ns, n.Distinct) →
      (buildAll t ns').1 = (buildAll s ns).1 ∧ (buildAll s ns).2.Agrees (buildAll t ns').2 ∧
        List.Forall₂ Event.Matches (historyAll s ns) (historyAll t ns') := by
  induction h with
  | nil => exact fun hst _ => ⟨rfl, hst, .nil⟩
  | @cons n n' ns ns' hn _ ih =>
    intro s t hst hdistinct
    rw [preorder, List.flatMap_cons, List.forall_mem_append] at hdistinct
    obtain ⟨houtcome, hstates, hevents⟩ := build_reordered hst n n' hn hdistinct.1
    obtain ⟨hroots, hstates', hevents'⟩ := ih hstates hdistinct.2
    rw [buildAll_cons, buildAll_cons, historyAll, historyAll]
    refine ⟨?_, hstates', List.rel_append hevents hevents'⟩
    dsimp only
    rw [hroots, houtcome, hn.ref]

/-! ## Declaring -/

mutual

theorem declareNode_reordered (r : Registry Object) :
    ∀ n n', n.Reordered n' → declareNode r n' = declareNode r n
  | ⟨index, kind, type, id, name, location, properties, children, invalid⟩, n', h => by
    obtain ⟨properties', children', rfl, -, hchildren⟩ := h
    cases id with
    | none =>
      rw [declareNode, declareNode]
      exact declareChildren_reordered r children children' hchildren
    | some id =>
      rw [declareNode, declareNode]
      split
      · rfl
      · exact declareChildren_reordered _ children children' hchildren

theorem declareChildren_reordered (r : Registry Object) :
    ∀ cs cs', Child.Reordered cs cs' → declareChildren r cs' = declareChildren r cs
  | [], _, h => by
    cases h
    rfl
  | .nested n :: cs, _, h => by
    obtain ⟨n', ds, rfl, hn, hcs⟩ := h
    rw [declareChildren, declareChildren, declareNode_reordered r n n' hn]
    simp only [declareChildren_reordered _ cs ds hcs]
  | .reference q :: cs, _, h => by
    obtain ⟨ds, rfl, hcs⟩ := h
    rw [declareChildren, declareChildren]
    exact declareChildren_reordered r cs ds hcs

end

/-- Properties declare nothing. -/
theorem declareAll_reordered {ns ns' : List Node} (h : List.Forall₂ Node.Reordered ns ns') :
    ∀ r, declareAll r ns' = declareAll r ns := by
  induction h with
  | nil => exact fun _ => rfl
  | cons hn _ ih =>
    intro r
    rw [declareAll, declareAll, declareNode_reordered r _ _ hn]
    simp only [ih]

/-! ## Top theorem -/

theorem problems_eq_of_matches {log log' : List Event} (h : List.Forall₂ Event.Matches log log') :
    (log.flatMap fun e => Finding.problems false e.told) =
      log'.flatMap fun e => Finding.problems false e.told := by
  induction h with
  | nil => rfl
  | cons he _ ih => rw [List.flatMap_cons, List.flatMap_cons, he.problems, ih]

/-- Apart from unused properties the problems do not depend on strictness. -/
theorem used_problems (strict : Bool) (forest : List Node) :
    (Finding.problems strict (run forest).2).filter (!·.isUnusedProperty) =
      Finding.problems false (run forest).2 := by
  have hplain := run_plain forest
  cases strict with
  | true => exact (Finding.problems_strict hplain).1
  | false =>
    refine List.filter_eq_self.mpr fun p hp => ?_
    obtain ⟨f, hf, hproblem⟩ := List.mem_filterMap.mp hp
    cases f with
    | problem q =>
      obtain rfl := Option.some.inj hproblem
      rw [hplain q hf]
      rfl
    | unused u => cases hproblem

/-- **Property order does not matter.**  If no two properties of a node have one name, then with
the properties of any nodes in another order a run makes the same objects and reports the same
problems in the same order, apart from unused properties.  These are reported event by event as
before, those of one node in another order. -/
theorem run_reordered {forest forest' : List Node} (hdistinct : ∀ n ∈ preorder forest, n.Distinct)
    (h : List.Forall₂ Node.Reordered forest forest') :
    (run forest').1 = (run forest).1 ∧
    (∀ strict, (Finding.problems strict (run forest').2).filter (!·.isUnusedProperty) =
      (Finding.problems strict (run forest).2).filter (!·.isUnusedProperty)) ∧
    List.Forall₂ Event.Matches (runHistory forest) (runHistory forest') ∧
    ∀ f, Finding.warnings false (run f).2 = (runHistory f).flatMap Event.warned ∧
      (Finding.problems true (run f).2).filter (·.isUnusedProperty) =
        ((runHistory f).flatMap Event.warned).map Unused.problem := by
  have hdeclared := declareAll_reordered h Registry.empty
  have hinitial : initial forest' = initial forest := by
    rw [initial, initial, declared, declared, hdeclared]
  obtain ⟨hroots, hstates, hevents⟩ :=
    buildAll_reordered h (s := initial forest) (t := initial forest) ⟨rfl, rfl⟩ hdistinct
  have hhistories : List.Forall₂ Event.Matches (runHistory forest) (runHistory forest') := by
    rw [runHistory, runHistory, hinitial]
    exact hevents
  refine ⟨?_, fun strict => ?_, hhistories, fun f => ⟨run_warnings f, ?_⟩⟩
  · rw [run_eq, run_eq, hinitial]
    dsimp only
    rw [hroots, hstates.arena]
  · rw [used_problems, used_problems, run_problems, run_problems, hdeclared,
      problems_eq_of_matches hhistories]
  · rw [(Finding.problems_strict (run_plain f)).2, run_warnings]
    rfl

/-- A direct integrator with the given properties. -/
def directWith (properties : List Property) : List Node :=
  [⟨0, .integrator, "direct", none, none, ⟨1, 1⟩, properties, [], []⟩]

theorem run_reordered_directWith :
    let gloss : Property := ⟨"gloss", .integer 1, ⟨2, 1⟩⟩
    let emitter : Property := ⟨"emitter_samples", .integer 2, ⟨3, 1⟩⟩
    let sheen : Property := ⟨"sheen", .integer 3, ⟨4, 1⟩⟩
    let shading : Property := ⟨"shading_samples", .integer (-4), ⟨5, 1⟩⟩
    let forest := directWith [gloss, emitter, sheen, shading]
    let forest' := directWith [shading, sheen, emitter, gloss]
    (∀ n ∈ preorder forest, n.Distinct) ∧ List.Forall₂ Node.Reordered forest forest' ∧
      (run forest').1 = (run forest).1 ∧
      (Finding.warnings false (run forest).2).map (·.property) = ["gloss", "sheen"] ∧
      (Finding.warnings false (run forest').2).map (·.property) = ["sheen", "gloss"] := by
  intro gloss emitter sheen shading forest forest'
  have hdistinct : ∀ n ∈ preorder forest, n.Distinct := by
    intro n hn
    obtain rfl := List.mem_singleton.mp hn
    unfold Node.Distinct
    decide
  have hreordered : List.Forall₂ Node.Reordered forest forest' := by
    refine .cons ⟨_, _, rfl, ?_, rfl⟩ .nil
    exact (List.reverse_perm [gloss, emitter, sheen, shading]).symm
  exact ⟨hdistinct, hreordered, (run_reordered hdistinct hreordered).1, by decide +kernel,
    by decide +kernel⟩

end Instantiation

end SceneGraph
