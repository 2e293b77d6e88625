import SceneGraph.Proofs.Origins
import SceneGraph.Proofs.SilentRun

/-!
# What building keeps

An object travels: from the end of its node to the node around it, or through the registry to any
later reference.  Whatever holds of an object where it is made holds wherever it arrives, since
nothing on the way changes it.  `Upkeep` collects what has to be shown of the single steps,
chiefly of the end of one node whose children are at hand, and `build_upkeep`,
`buildChildren_upkeep` and `buildAll_upkeep` are the runs.

A test of the findings may be assumed at every step if findings that are extended by others pass
it with them.
-/

namespace SceneGraph.Instantiation

/-! ## Definitions -/

/-- A child at hand, with an object that satisfies `K`, that stands where one of `cs` stands. -/
structure Supplies (K : Object → Prop) (cs : List Child) (a : Attachment) : Prop where
  object : K a.object
  place : ∃ c ∈ cs, c.location = a.location

/-- Every step keeps `I` of states and gives objects with `K`, for nodes with `N`, as long as the
findings pass `F`. -/
structure Upkeep (F : List Finding → Prop) (N : Node → Prop) (K : Object → Prop)
    (I : State → Prop) : Prop where
  earlier : ∀ {fs gs : List Finding}, fs <+: gs → F gs → F fs
  known : ∀ {s : State} {e : Entry Object} {o : Object}, I s → e ∈ s.registry.entries →
    e.status = .built o → K o
  lookedUp : ∀ {s : State} {n : Node} {r : Reference}, I s → N n → .reference r ∈ n.children →
    I (s.lookedUp (s.registry.resolve r.id r.location))
  finish : ∀ {s : State} {n : Node} {children : Attached}, I s → N n →
    (∀ a ∈ children.items, Supplies K n.children a) → F (finish n children s).2.findings →
    I (finish n children s).2 ∧ ∀ o, (finish n children s).1 = .built o → K o
  publish : ∀ {s : State} {id : Option String} {index : Nat} {outcome : Outcome}, I s →
    (∀ o, outcome = .built o → K o) → I (s.publish id index outcome)

/-! ## Lemmas -/

theorem Supplies.mono {K : Object → Prop} {cs ds : List Child} {a : Attachment}
    (h : Supplies K cs a) (hsub : cs ⊆ ds) : Supplies K ds a := by
  obtain ⟨c, hc, hplace⟩ := h.place
  exact ⟨h.object, c, hsub hc, hplace⟩

/-- The end of a node leaves every entry where it is, and gives none a status but its own. -/
theorem mem_publish_entries {s : State} {id : Option String} {index : Nat} {outcome : Outcome}
    {e : Entry Object} (he : e ∈ (s.publish id index outcome).registry.entries) :
    ∃ e' ∈ s.registry.entries, e.location = e'.location ∧
      (e.status = e'.status ∨ e.status = outcome.status) := by
  cases id with
  | none => exact ⟨e, he, rfl, .inl rfl⟩
  | some id =>
    rw [publish_registry_some] at he
    obtain ⟨e', he', rfl⟩ := List.mem_map.mp he
    refine ⟨e', he', ?_⟩
    split
    · exact ⟨rfl, .inr rfl⟩
    · exact ⟨rfl, .inl rfl⟩

/-- What a reference gives is known. -/
theorem exists_of_given? {r : Registry Object} {id : String} {l : Location} {o : Object}
    (h : given? (r.resolve id l) = some o) : ∃ e ∈ r.entries, e.status = .built o := by
  unfold Registry.resolve at h
  cases hfind : r.find? id with
  | none =>
    rw [hfind] at h
    cases h
  | some e =>
    rw [hfind] at h
    refine ⟨e, List.mem_of_find?_eq_some hfind, ?_⟩
    cases hstatus : e.status with
    | pending =>
      simp only [hstatus] at h
      cases h
    | failed =>
      simp only [hstatus] at h
      cases h
    | built o' =>
      simp only [hstatus] at h
      rw [Option.some.inj h]

theorem mem_nested_items {g : Gathered} {n : Node} {outcome : Outcome} {a : Attachment}
    (ha : a ∈ (g.nested n outcome).attached.items) :
    (∃ o, outcome = .built o ∧ a = ⟨n.name, o, n.location, false⟩) ∨ a ∈ g.attached.items := by
  cases outcome with
  | built o =>
    rcases List.mem_cons.mp ha with rfl | ha
    · exact .inl ⟨o, rfl, rfl⟩
    · exact .inr ha
  | failed => exact .inr ha
  | aborted => exact .inr ha

theorem mem_reference_items {g : Gathered} {r : Reference} {target : Option Object}
    {a : Attachment} (ha : a ∈ (g.reference r target).attached.items) :
    (∃ o, target = some o ∧ a = ⟨r.name, o, r.location, true⟩) ∨ a ∈ g.attached.items := by
  cases target with
  | some o =>
    rcases List.mem_cons.mp ha with rfl | ha
    · exact .inl ⟨o, rfl, rfl⟩
    · exact .inr ha
  | none => exact .inr ha

namespace Upkeep

variable {F : List Finding → Prop} {N : Node → Prop} {K : Object → Prop} {I : State → Prop}

theorem conclude (hup : Upkeep F N K I) {s : State} {n : Node} {g : Gathered} (hs : I s)
    (hn : N n) (hg : ∀ a ∈ g.attached.items, Supplies K n.children a)
    (h : F (conclude n g s).2.findings) :
    I (Instantiation.conclude n g s).2 ∧
      ∀ o, (Instantiation.conclude n g s).1 = .built o → K o := by
  unfold Instantiation.conclude at h ⊢
  split at h
  · next haborted =>
    rw [if_pos haborted]
    exact ⟨hs, fun o ho => by cases ho⟩
  · next haborted =>
    rw [if_neg haborted]
    exact hup.finish hs hn hg h

/-! ## Runs -/

mutual

theorem build_upkeep (hup : Upkeep F N K I) {s : State} (hs : I s) :
    ∀ n : Node, (∀ m ∈ n.postorder, N m) → F (build s n).2.findings →
      I (build s n).2 ∧ ∀ o, (build s n).1 = .built o → K o
  | ⟨index, kind, type, id, name, location, properties, children, invalid⟩, hn, h => by
    by_cases hdup : s.registry.isDuplicate index = true
    · rw [build_of_duplicate hdup]
      exact ⟨hs, fun o ho => by cases ho⟩
    · have hfirst := Bool.eq_false_iff.mpr hdup
      rw [Node.postorder_eq] at hn
      have hself := hn _ (List.mem_append_right _ (List.mem_singleton_self _))
      have hinner := fun m hm => hn m (List.mem_append_left _ hm)
      rw [build_state_of_first hfirst] at h ⊢
      rw [publish_findings] at h
      obtain ⟨hchildren, hitems⟩ := buildChildren_upkeep hup hs hself children
        (List.Subset.refl _) hinner (hup.earlier (conclude_findings _ _ _) h)
      obtain ⟨hend, hobject⟩ := hup.conclude hchildren hself hitems h
      rw [build_outcome_of_first hfirst]
      exact ⟨hup.publish hend hobject, hobject⟩

/-- Children of the node `parent`. -/
theorem buildChildren_upkeep (hup : Upkeep F N K I) {s : State} (hs : I s) {parent : Node}
    (hparent : N parent) : ∀ cs : List Child, cs ⊆ parent.children →
      (∀ m ∈ Child.postorder cs, N m) → F (buildChildren s cs).2.findings →
      I (buildChildren s cs).2 ∧ ∀ a ∈ (buildChildren s cs).1.attached.items, Supplies K cs a
  | [], _, _, _ => ⟨hs, List.forall_mem_nil _⟩
  | .nested n :: cs, hsub, hn, h => by
    rw [buildChildren_nested] at h ⊢
    rw [Child.postorder] at hn
    obtain ⟨hnode, hobject⟩ := build_upkeep hup hs n (fun m hm => hn m (List.mem_append_left _ hm))
      (hup.earlier (buildChildren_findings _ cs) h)
    obtain ⟨hrest, hitems⟩ := buildChildren_upkeep hup hnode hparent cs
      (fun c hc => hsub (List.mem_cons_of_mem _ hc))
      (fun m hm => hn m (List.mem_append_right _ hm)) h
    refine ⟨hrest, fun a ha => ?_⟩
    rcases mem_nested_items ha with ⟨o, ho, rfl⟩ | ha
    · exact ⟨hobject o ho, .nested n, List.mem_cons_self, rfl⟩
    · exact (hitems a ha).mono (List.subset_cons_self _ _)
  | .reference r :: cs, hsub, hn, h => by
    rw [buildChildren_reference] at h ⊢
    dsimp only at h ⊢
    have hnext := hup.lookedUp hs hparent (hsub List.mem_cons_self)
    obtain ⟨hrest, hitems⟩ := buildChildren_upkeep hup hnext hparent cs
      (fun c hc => hsub (List.mem_cons_of_mem _ hc)) hn h
    refine ⟨hrest, fun a ha => ?_⟩
    rcases mem_reference_items ha with ⟨o, ho, rfl⟩ | ha
    · obtain ⟨e, he, hstatus⟩ := exists_of_given? ho
      exact ⟨hup.known hs he hstatus, .reference r, List.mem_cons_self, rfl⟩
    · exact (hitems a ha).mono (List.subset_cons_self _ _)

end

/-- The root of one of the nodes, with an object that satisfies `K`. -/
theorem buildAll_upkeep (hup : Upkeep F N K I) (ns : List Node) : ∀ {s : State}, I s →
    (∀ m ∈ postorder ns, N m) → F (buildAll s ns).2.findings →
    I (buildAll s ns).2 ∧
      ∀ r ∈ (buildAll s ns).1, K r.object ∧ ∃ n ∈ ns, r.node = n.ref := by
  induction ns with
  | nil =>
    intro s hs _ _
    exact ⟨hs, List.forall_mem_nil _⟩
  | cons n ns ih =>
    intro s hs hn h
    rw [buildAll_cons] at h ⊢
    rw [postorder, List.flatMap_cons] at hn
    obtain ⟨hnode, hobject⟩ := build_upkeep hup hs n (fun m hm => hn m (List.mem_append_left _ hm))
      (hup.earlier (buildAll_findings ns _) h)
    obtain ⟨hrest, hroots⟩ := ih hnode (fun m hm => hn m (List.mem_append_right _ hm)) h
    refine ⟨hrest, fun r hr => ?_⟩
    rcases List.mem_append.mp hr with hr | hr
    · cases houtcome : (build s n).1 with
      | built o =>
        rw [houtcome] at hr
        obtain rfl := List.mem_singleton.mp hr
        exact ⟨hobject o houtcome, n, List.mem_cons_self, rfl⟩
      | failed =>
        rw [houtcome] at hr
        cases hr
      | aborted =>
        rw [houtcome] at hr
        cases hr
    · obtain ⟨hk, m, hm, hnode⟩ := hroots r hr
      exact ⟨hk, m, List.mem_cons_of_mem _ hm, hnode⟩

end Upkeep

end SceneGraph.Instantiation
