import SceneGraph.Proofs.Delivery
import SceneGraph.Proofs.Fates
import SceneGraph.Proofs.Mirroring

/-!
# Runs that find no problem

Every way in which building can drop a node leaves a problem among the findings, and findings
are never taken back.  So a run that ends without a problem has built an object for every root
and put every bsdf and volume of the forest into the arena, in the order in which the nodes end
(`run_silent`).

`build_silent` is the step of one node; it is carried by states in which no id is declared twice
and no node has failed (`Clean`), where a reference cannot abort its node without a report.
-/

namespace SceneGraph

/-- Findings without a problem. -/
def Finding.Silent (fs : List Finding) : Prop := ∀ p, Finding.problem p ∉ fs

theorem Finding.silent_of_problems {strict : Bool} {fs : List Finding}
    (h : Finding.problems strict fs = []) : Silent fs := by
  intro p hp
  have hnone := List.filterMap_eq_nil_iff.mp h _ hp
  cases hnone

theorem Finding.Silent.of_prefix {fs gs : List Finding} (h : Silent gs) (hle : fs <+: gs) :
    Silent fs := fun p hp => h p (hle.subset hp)

namespace Instantiation

open Finding (Silent)

/-- No id is declared twice, and no node has failed. -/
structure Clean (s : State) : Prop where
  unrepeated : s.registry.duplicates = []
  unfailed : ∀ e ∈ s.registry.entries, e.status ≠ .failed

/-- From a state to a clean one with the given nodes built. -/
structure Completes (s : State) (nodes : List Node) (t : State) : Prop where
  clean : Clean t
  records : s.arena.Records nodes t.arena

theorem Completes.append {s t u : State} {ms ns : List Node} (h : Completes s ms t)
    (h' : Completes t ns u) : Completes s (ms ++ ns) u :=
  ⟨h'.clean, h.records.append h'.records⟩

/-! ## Findings are kept -/

theorem conclude_findings (n : Node) (g : Gathered) (s : State) :
    s.findings <+: (conclude n g s).2.findings := by
  unfold conclude
  split
  · exact List.prefix_refl _
  · obtain ⟨-, h⟩ | ⟨p, fs, -, -, h⟩ | ⟨p, product, fs, -, -, h⟩ := finish_cases n g.attached s
    all_goals
      rw [h]
      exact List.prefix_append _ _

theorem buildChildren_findings (s : State) (cs : List Child) :
    s.findings <+: (buildChildren s cs).2.findings := by
  rw [(buildChildren_adds s cs).findings]
  exact List.prefix_append _ _

theorem buildAll_findings (forest : List Node) (s : State) :
    s.findings <+: (buildAll s forest).2.findings := by
  rw [(buildAll_adds s forest).findings]
  exact List.prefix_append _ _

/-! ## Steps without a problem -/

/-- A node whose children are all there is built, if that finds no problem. -/
theorem conclude_silent {n : Node} {g : Gathered} {s : State} (haborted : g.aborted = false)
    (hfailed : g.attached.failed = []) (h : Silent (conclude n g s).2.findings) :
    ∃ o, (conclude n g s).1 = .built o ∧ o.Of n.ref ∧
      s.arena.Records [n] (conclude n g s).2.arena := by
  have hconclude : conclude n g s = finish n g.attached s := by
    rw [conclude, haborted]
    rfl
  rw [hconclude] at h ⊢
  -- a plugin that is found has reported nothing, so it has made something
  have hdelivered : ∀ p product findings, Plugin.find? n.kind n.type = some p →
      inspect p n g.attached = (product, findings) → Silent (s.findings ++ findings) →
      ∃ made, product = some made ∧ made.Of n.ref := by
    intro p product findings hp hinspect hsilent
    have hkind : p.kind = n.kind := by
      have hfound := List.find?_some hp
      simp only [Bool.and_eq_true, decide_eq_true_eq] at hfound
      exact hfound.1
    have hproblems : (p.build g.attached n.settings).2.problems = [] := by
      rw [List.eq_nil_iff_forall_not_mem]
      intro q hq
      apply hsilent q
      rw [← (Prod.mk.inj hinspect).2]
      simp [hq]
    obtain ⟨made, hmade, hof⟩ :=
      Plugin.delivers_of_find? hp g.attached n.settings hkind.symm hfailed hproblems
    exact ⟨made, (Prod.mk.inj hinspect).1.symm.trans hmade, hof⟩
  obtain ⟨-, hfinish⟩ | ⟨p, fs, hp, hi, hfinish⟩ | ⟨p, product, fs, hp, hi, hfinish⟩ :=
    finish_cases n g.attached s
  · rw [hfinish] at h
    exact absurd (List.mem_append_right _ (List.mem_singleton_self _)) (h _)
  · rw [hfinish] at h
    obtain ⟨made, hmade, -⟩ := hdelivered p none fs hp hi h
    cases hmade
  · rw [hfinish] at h ⊢
    obtain ⟨made, hmade, hof⟩ := hdelivered p (some product) fs hp hi h
    obtain rfl := Option.some.inj hmade
    obtain ⟨hobject, hrecords⟩ := s.arena.store_records n hof
    rw [hfailed]
    exact ⟨_, rfl, hobject, hrecords⟩

theorem publish_clean {s : State} (hs : Clean s) (id : Option String) (index : Nat) (o : Object) :
    Clean (s.publish id index (.built o)) := by
  refine ⟨by rw [publish_duplicates, hs.unrepeated], ?_⟩
  cases id with
  | none => exact hs.unfailed
  | some id =>
    rw [publish_registry_some]
    intro e he
    obtain ⟨f, hf, rfl⟩ := List.mem_map.mp he
    split
    · exact fun hstatus => nomatch hstatus
    · exact hs.unfailed f hf

/-- In a clean state a reference is reported or gives its node an object. -/
theorem resolve_clean {s : State} (hs : Clean s) (r : Reference)
    (h : Silent (s.lookedUp (s.registry.resolve r.id r.location)).findings) :
    ∃ o, s.registry.resolve r.id r.location = .ok (some o) := by
  cases hresolve : s.registry.resolve r.id r.location with
  | error p =>
    rw [hresolve] at h
    exact absurd (List.mem_append_right _ (List.mem_singleton_self _)) (h p)
  | ok target =>
    unfold Registry.resolve at hresolve
    split at hresolve
    · cases hresolve
    · next e hfind =>
      split at hresolve
      · next o _ => exact ⟨o, by rw [← Except.ok.inj hresolve]⟩
      · next hstatus => exact absurd hstatus (hs.unfailed e (List.mem_of_find?_eq_some hfind))
      · cases hresolve

mutual

/-- A node is built with all that it contains, if that finds no problem. -/
theorem build_silent {s : State} (hs : Clean s) : ∀ n, Silent (build s n).2.findings →
    (∃ o, (build s n).1 = .built o ∧ o.Of n.ref) ∧ Completes s n.postorder (build s n).2
  | ⟨index, kind, type, id, name, location, properties, children, invalid⟩, h => by
    have hfirst : s.registry.isDuplicate index = false := by
      rw [Registry.isDuplicate, hs.unrepeated]
      rfl
    rw [build_state_of_first hfirst] at h ⊢
    rw [publish_findings] at h
    obtain ⟨haborted, hfailed, hchildren⟩ :=
      buildChildren_silent hs children (h.of_prefix (conclude_findings _ _ _))
    obtain ⟨o, houtcome, hof, hrecords⟩ := conclude_silent haborted hfailed h
    rw [build_outcome_of_first hfirst, Node.postorder_eq, houtcome]
    refine ⟨⟨o, rfl, hof⟩, ?_⟩
    refine hchildren.append ⟨publish_clean ⟨?_, ?_⟩ _ _ _, ?_⟩
    · rw [conclude_registry, hchildren.clean.unrepeated]
    · rw [conclude_registry]
      exact hchildren.clean.unfailed
    · rw [publish_arena]
      exact hrecords

theorem buildChildren_silent {s : State} (hs : Clean s) :
    ∀ cs, Silent (buildChildren s cs).2.findings →
      (buildChildren s cs).1.aborted = false ∧ (buildChildren s cs).1.attached.failed = [] ∧
        Completes s (Child.postorder cs) (buildChildren s cs).2
  | [], _ => ⟨rfl, rfl, hs, .refl _⟩
  | .nested n :: cs, h => by
    rw [buildChildren_nested] at h ⊢
    obtain ⟨⟨o, houtcome, -⟩, hnode⟩ :=
      build_silent hs n (h.of_prefix (buildChildren_findings _ cs))
    obtain ⟨haborted, hfailed, hrest⟩ := buildChildren_silent hnode.clean cs h
    rw [houtcome]
    exact ⟨haborted, hfailed, hnode.append hrest⟩
  | .reference r :: cs, h => by
    rw [buildChildren_reference] at h ⊢
    dsimp only at h ⊢
    obtain ⟨o, hresolve⟩ := resolve_clean hs r (h.of_prefix (buildChildren_findings _ cs))
    rw [hresolve] at h ⊢
    exact buildChildren_silent hs cs h

end

/-! ## Runs without a problem -/

/-- A root with an object that is built for the node. -/
structure Fulfils (n : Node) (r : Root) : Prop where
  ref : r.node = n.ref
  object : r.object.Of n.ref

theorem buildAll_silent (ns : List Node) : ∀ {s : State}, Clean s →
    Silent (buildAll s ns).2.findings →
    List.Forall₂ Fulfils ns (buildAll s ns).1 ∧
      Completes s (postorder ns) (buildAll s ns).2 := by
  induction ns with
  | nil =>
    intro s hs _
    exact ⟨.nil, hs, .refl _⟩
  | cons n ns ih =>
    intro s hs h
    rw [buildAll_cons] at h ⊢
    obtain ⟨⟨o, houtcome, hof⟩, hnode⟩ := build_silent hs n (h.of_prefix (buildAll_findings ns _))
    obtain ⟨hroots, hrest⟩ := ih hnode.clean h
    rw [houtcome]
    exact ⟨.cons ⟨rfl, hof⟩ hroots, hnode.append hrest⟩

/-- A duplicate is reported. -/
theorem declareAll_silent {r : Registry Object} {forest : List Node}
    (h : (declareAll r forest).2 = []) : (declareAll r forest).1.duplicates = r.duplicates := by
  have hcites := declareAll_cites r forest
  rw [h, List.forall₂_nil_right_iff] at hcites
  rw [declareAll_eq, hcites]
  exact List.append_nil _

theorem initial_clean {forest : List Node} (h : Silent (initial forest).findings) :
    Clean (initial forest) := by
  constructor
  · refine declareAll_silent ?_
    rw [List.eq_nil_iff_forall_not_mem]
    exact fun p hp => h p (List.mem_map_of_mem hp)
  · intro e he
    rw [pending_of_mem_declared he]
    exact fun hstatus => nomatch hstatus

/-- A run that finds no problem loses none of its nodes. -/
theorem run_silent {forest : List Node} (h : Silent (run forest).2) :
    List.Forall₂ Fulfils forest (run forest).1.roots ∧
      Arena.empty.Records (postorder forest) (run forest).1.arena := by
  rw [run_eq] at h ⊢
  have hclean := initial_clean (h.of_prefix (buildAll_findings forest _))
  obtain ⟨hroots, hrun⟩ := buildAll_silent forest hclean h
  exact ⟨hroots, hrun.records⟩

end Instantiation

end SceneGraph
