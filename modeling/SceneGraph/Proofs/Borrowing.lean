import SceneGraph.Proofs.Ownership
import SceneGraph.Proofs.Recall

/-!
# What shapes borrow

In a run without a problem a reference gives its node the object that the id names ever after
(`buildChildren_supplied`), and a shape keeps every bsdf that it is given.  So a shape with a
reference to the id of a bsdf holds the slot that is filled with this id (`run_borrows`).
-/

namespace SceneGraph

namespace Instantiation

open Finding (Passes)

/-! ## Definitions -/

/-- Everything that `cs` refer to is known, and at hand. -/
def Supplied (r : Registry Object) (cs : List Child) (a : Attached) : Prop :=
  ∀ ref, Child.reference ref ∈ cs → ∃ item ∈ a.items, r.value? ref.id = some item.object

/-- If a node is a shape, it holds the bsdfs among all that it refers to. -/
def Borrows (r : Registry Object) (n : Node) (root : Root) : Prop :=
  ∀ d, root.object = .shape d → ∀ ref, Child.reference ref ∈ n.children →
    ∃ o, r.value? ref.id = some o ∧ ∀ h, o = .bsdf h → h ∈ d.bsdfs

/-! ## Children -/

theorem items_subset_nested (g : Gathered) (n : Node) (outcome : Outcome) :
    g.attached.items ⊆ (g.nested n outcome).attached.items := by
  cases outcome with
  | built o => exact List.subset_cons_self _ _
  | failed => exact List.Subset.refl _
  | aborted => exact List.Subset.refl _

/-- Every reference gives what is known at the end. -/
theorem buildChildren_supplied {strict : Bool} {nodes : List Node} (cs : List Child) :
    ∀ {s : State} (todo : List Node), Clean s →
      Underway strict nodes s.registry (Child.postorder cs ++ todo) →
      Passes strict (buildChildren s cs).2.findings →
      Supplied (buildChildren s cs).2.registry cs (buildChildren s cs).1.attached := by
  induction cs with
  | nil =>
    intro s todo _ _ _ ref href
    cases href
  | cons c cs ih =>
    intro s todo hs hway h ref href
    cases c with
    | nested n =>
      rw [buildChildren_nested] at h ⊢
      rw [Child.postorder, List.append_assoc] at hway
      have hfirst := h.of_prefix (buildChildren_findings _ cs)
      obtain ⟨hnode, -⟩ := build_underway hs n _ hway hfirst
      have href' : Child.reference ref ∈ cs :=
        (List.mem_cons.mp href).resolve_left (by rintro ⟨⟩)
      obtain ⟨item, hitem, hknown⟩ :=
        ih todo (build_silent hs n hfirst.silent).2.clean hnode h ref href'
      exact ⟨item, items_subset_nested _ _ _ hitem, hknown⟩
    | reference r =>
      rw [buildChildren_reference] at h ⊢
      dsimp only at h ⊢
      obtain ⟨o, hresolve⟩ :=
        resolve_clean hs r (h.of_prefix (buildChildren_findings _ cs)).silent
      rw [hresolve] at h ⊢
      rcases List.mem_cons.mp href with heq | href
      · obtain rfl : ref = r := Child.reference.inj heq
        have hkeeps := (buildChildren_underway hs cs todo hway h).2
        exact ⟨_, List.mem_cons_self, hkeeps _ _ (resolve_eq_some_iff.mp hresolve)⟩
      · obtain ⟨item, hitem, hknown⟩ := ih todo hs hway h ref href
        exact ⟨item, List.mem_cons_of_mem _ hitem, hknown⟩

/-! ## Shapes -/

/-- A shape holds the bsdfs that were attached to its node. -/
theorem bsdfs_of_conclude {n : Node} (hkind : n.kind = .shape) {g : Gathered} {s : State}
    {d : ShapeDraft} (h : (conclude n g s).1 = .built (.shape d)) :
    d.bsdfs = g.attached.bsdfs := by
  obtain ⟨p, product, hp, hproduct, hobject⟩ := conclude_built h
  have hfound : p.kind = n.kind ∧ p.type = n.type := by
    simpa only [Bool.and_eq_true, decide_eq_true_eq] using List.find?_some hp
  obtain ⟨type, settings, rfl, -⟩ := Plugin.ofShape_of_find? hp (hfound.1.trans hkind)
  obtain rfl := Option.some.inj hproduct
  rw [← Object.shape.inj hobject]

/-! ## Runs -/

theorem Borrows.mono {r q : Registry Object} {n : Node} {root : Root} (h : Borrows r n root)
    (hrq : Keeps r q) : Borrows q n root := by
  intro d hd ref href
  obtain ⟨o, ho, hheld⟩ := h d hd ref href
  exact ⟨o, hrq _ _ ho, hheld⟩

theorem build_borrows {strict : Bool} {nodes todo : List Node} {s : State} {n : Node}
    (hs : Clean s) (hway : Underway strict nodes s.registry (n.postorder ++ todo))
    (h : Passes strict (build s n).2.findings) {o : Object} (ho : (build s n).1 = .built o) :
    Borrows (build s n).2.registry n ⟨n.ref, o⟩ := by
  have hfirst : s.registry.isDuplicate n.index = false := isDuplicate_of_clean hs n.index
  have hchildren := h
  rw [build_state_of_first hfirst, publish_findings] at hchildren
  replace hchildren := hchildren.of_prefix (conclude_findings _ _ _)
  rw [Node.postorder_eq, List.append_assoc] at hway
  have hsupplied := buildChildren_supplied n.children _ hs hway hchildren
  obtain ⟨hinner, hkeeps⟩ := buildChildren_underway hs n.children _ hway hchildren
  rw [← conclude_registry n (buildChildren s n.children).1 (buildChildren s n.children).2]
    at hinner hkeeps hsupplied
  have hpublish := (hinner.publish ⟨s, hs, hkeeps, ho, h⟩).2
  obtain ⟨⟨o', ho', hof⟩, -⟩ := build_silent hs n h.silent
  obtain rfl : o = o' := Outcome.built.inj (ho.symm.trans ho')
  rintro d rfl ref href
  have hkind : n.kind = .shape := hof.1
  obtain ⟨item, hitem, hknown⟩ := hsupplied ref href
  rw [build_outcome_of_first hfirst] at ho
  rw [build_state_of_first hfirst, build_outcome_of_first hfirst, ho]
  refine ⟨item.object, hpublish _ _ hknown, fun b hb => ?_⟩
  rw [bsdfs_of_conclude hkind ho]
  exact List.mem_filterMap.mpr ⟨item, hitem, by rw [hb]; rfl⟩

theorem buildAll_borrows {strict : Bool} {nodes : List Node} (ns : List Node) : ∀ {s : State},
    Clean s → Underway strict nodes s.registry (postorder ns) →
    Passes strict (buildAll s ns).2.findings →
    List.Forall₂ (Borrows (buildAll s ns).2.registry) ns (buildAll s ns).1 ∧
      Underway strict nodes (buildAll s ns).2.registry [] ∧
      Keeps s.registry (buildAll s ns).2.registry := by
  induction ns with
  | nil => exact fun _ hway _ => ⟨.nil, hway, .refl _⟩
  | cons n ns ih =>
    intro s hs hway h
    rw [buildAll_cons] at h ⊢
    have hfirst := h.of_prefix (buildAll_findings ns _)
    obtain ⟨⟨o, ho, -⟩, hnode⟩ := build_silent hs n hfirst.silent
    have hway' : Underway strict nodes s.registry (n.postorder ++ postorder ns) := hway
    have hborrows := build_borrows hs hway' hfirst ho
    obtain ⟨hrest, hkeeps⟩ := build_underway hs n _ hway' hfirst
    obtain ⟨hall, hend, hkeeps'⟩ := ih hnode.clean hrest h
    rw [ho]
    exact ⟨.cons (hborrows.mono hkeeps') hall, hend, hkeeps.trans hkeeps'⟩

/-- A shape with a reference to the id of a bsdf holds the slot that is filled with the id. -/
theorem run_borrows {strict : Bool} {forest : List Node} (h : Passes strict (run forest).2) :
    List.Forall₂ (fun n root => ∀ d, root.object = .shape d →
      ∀ ref, Child.reference ref ∈ n.children →
      ∀ m ∈ postorder forest, m.kind = .bsdf → m.id = some ref.id →
        ∃ b ∈ d.bsdfs, (run forest).1.arena.id? (.bsdf b) = some (some ref.id))
      forest (run forest).1.roots := by
  rw [run_eq] at h ⊢
  have hclean := initial_clean (h.of_prefix (buildAll_findings forest _)).silent
  have hdistinct := postorder_ids_nodup hclean.unrepeated
  have hsound := (buildAll_sound forest (initial_sound forest)).1
  obtain ⟨hborrows, hway, -⟩ := buildAll_borrows forest hclean (initial_underway hclean) h
  refine hborrows.imp fun n root hroot d hd ref href m hm hkind hid => ?_
  obtain ⟨o, ho, hheld⟩ := hroot d hd ref href
  -- what is known under the id of the bsdf was built for it
  obtain ⟨m', hm', hid', before, hbefore, -, hbuilt, hpassed⟩ := hway.origin ref.id o ho
  obtain rfl : m = m' := eq_of_ids_nodup hdistinct hm hm' hid hid'
  obtain ⟨⟨o', hbuilt', hof⟩, -⟩ := build_silent hbefore m hpassed.silent
  obtain rfl : o = o' := Outcome.built.inj (hbuilt.symm.trans hbuilt')
  obtain ⟨b, rfl⟩ : ∃ b, o = .bsdf b := by
    have hobject : o.kind = .bsdf := hof.kind_eq.trans hkind
    cases o with
    | bsdf b => exact ⟨b, rfl⟩
    | _ => cases hobject
  have hgiven := given?_named hsound ⟨ref.id, none, ref.location⟩
    (x := .bsdf b) (by rw [resolve_eq_some_iff.mpr ho]; rfl)
  exact ⟨b, hheld b rfl, hgiven⟩

end Instantiation

end SceneGraph
