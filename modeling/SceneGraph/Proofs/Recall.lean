import SceneGraph.Proofs.Anonymity
import SceneGraph.Proofs.ReferenceResolution

/-!
# What a run without a problem knows

A run comes to know the object of every node with an id when the node ends.  In a run without a
problem no id is declared twice, so what is known stays (`Keeps`), and every known object comes
from building the one node with its id in an earlier state of the run (`Underway.origin`).

`build_underway` is the step of one node and `initial_underway` the start.  A state is underway with
the nodes that are still to end, in the order in which they will.
-/

namespace SceneGraph

/-- The object that is known under an id. -/
def Registry.value? {α : Type} (r : Registry α) (id : String) : Option α :=
  (r.find? id).bind fun e => match e.status with
    | .built value => some value
    | _ => none

namespace Instantiation

open Finding (Passes)

/-- What is known in `r` is known in `q`. -/
def Keeps (r q : Registry Object) : Prop := ∀ id o, r.value? id = some o → q.value? id = some o

/-- The object was built for the node without a problem, knowing no more than `r`. -/
def BuiltIn (strict : Bool) (r : Registry Object) (n : Node) (o : Object) : Prop :=
  ∃ s, Clean s ∧ Keeps s.registry r ∧ (build s n).1 = .built o ∧
    Passes strict (build s n).2.findings

/-- A registry on the way through `nodes`, of which `todo` are still to end. -/
structure Underway (strict : Bool) (nodes : List Node) (r : Registry Object) (todo : List Node) :
    Prop where
  subset : todo ⊆ nodes
  distinct : (todo.filterMap (·.id)).Nodup
  unknown : ∀ n ∈ todo, ∀ id, n.id = some id → r.value? id = none
  origin : ∀ id o, r.value? id = some o → ∃ n ∈ nodes, n.id = some id ∧ BuiltIn strict r n o

/-! ## What is known -/

theorem isDuplicate_of_clean {s : State} (hs : Clean s) (index : Nat) :
    s.registry.isDuplicate index = false := by
  rw [Registry.isDuplicate, hs.unrepeated]
  rfl

theorem Keeps.refl (r : Registry Object) : Keeps r r := fun _ _ h => h

theorem Keeps.trans {p q r : Registry Object} (h : Keeps p q) (h' : Keeps q r) : Keeps p r :=
  fun id o ho => h' id o (h id o ho)

theorem BuiltIn.mono {strict : Bool} {q r : Registry Object} {n : Node} {o : Object}
    (h : BuiltIn strict q n o) (hqr : Keeps q r) : BuiltIn strict r n o := by
  obtain ⟨s, hs, hknown, hbuilt⟩ := h
  exact ⟨s, hs, hknown.trans hqr, hbuilt⟩

/-- A reference gives an object exactly where it is known. -/
theorem resolve_eq_some_iff {r : Registry Object} {id : String} {l : Location} {o : Object} :
    r.resolve id l = .ok (some o) ↔ r.value? id = some o := by
  unfold Registry.resolve Registry.value?
  cases r.find? id with
  | none => exact iff_of_false (fun h => by cases h) (fun h => by cases h)
  | some e =>
    dsimp only [Option.bind_some]
    cases e.status with
    | pending => exact iff_of_false (fun h => by cases h) (fun h => by cases h)
    | built o' => simp
    | failed => exact iff_of_false (fun h => by cases h) (fun h => by cases h)

/-- The end of a node tells nothing about other ids. -/
theorem value?_publish_of_ne {s : State} {id : Option String} {index : Nat} {outcome : Outcome}
    {x : String} (h : id ≠ some x) :
    (s.publish id index outcome).registry.value? x = s.registry.value? x := by
  cases id with
  | none => rfl
  | some id =>
    rw [publish_registry_some, Registry.value?, Registry.value?,
      Registry.find?_finish]
    cases hfind : s.registry.find? x with
    | none => rfl
    | some e =>
      have hid : ¬ (e.id = id ∧ e.index = index) := by
        rintro ⟨rfl, -⟩
        exact h (by rw [Registry.id_of_find? hfind])
      simp only [Option.map_some, if_neg hid]

/-- What is known of a node that has ended is what it ended with, or what was known before. -/
theorem value?_publish_built {s : State} {id : String} {index : Nat} {o o' : Object}
    (h : (s.publish (some id) index (.built o)).registry.value? id = some o') :
    o' = o ∨ s.registry.value? id = some o' := by
  rw [publish_registry_some, Registry.value?, Registry.find?_finish] at h
  cases hfind : s.registry.find? id with
  | none =>
    rw [hfind] at h
    cases h
  | some e =>
    rw [hfind, Option.map_some, Option.bind_some] at h
    by_cases hown : e.id = id ∧ e.index = index
    · rw [if_pos hown] at h
      exact .inl (Option.some.inj h).symm
    · rw [if_neg hown] at h
      right
      rw [Registry.value?, hfind, Option.bind_some]
      exact h

/-! ## One node -/

section

variable {strict : Bool} {nodes : List Node}

/-- A node ends whose id is not known yet. -/
theorem Underway.publish {s : State} {n : Node} {todo : List Node} {o : Object}
    (h : Underway strict nodes s.registry (n :: todo)) (hn : BuiltIn strict s.registry n o) :
    Underway strict nodes (s.publish n.id n.index (.built o)).registry todo ∧
      Keeps s.registry (s.publish n.id n.index (.built o)).registry := by
  have hkeeps : Keeps s.registry (s.publish n.id n.index (.built o)).registry := by
    intro x o' ho'
    rw [value?_publish_of_ne]
    · exact ho'
    · intro hid
      rw [h.unknown n List.mem_cons_self x hid] at ho'
      cases ho'
  refine ⟨⟨fun m hm => h.subset (List.mem_cons_of_mem _ hm), ?_, ?_, ?_⟩, hkeeps⟩
  · exact h.distinct.sublist ((List.sublist_cons_self n todo).filterMap _)
  · intro m hm x hx
    rw [value?_publish_of_ne]
    · exact h.unknown m (List.mem_cons_of_mem _ hm) x hx
    · intro hid
      have hdistinct := h.distinct
      rw [List.filterMap_cons_some hid] at hdistinct
      exact (List.nodup_cons.mp hdistinct).1 (List.mem_filterMap.mpr ⟨m, hm, hx⟩)
  · intro x o' ho'
    by_cases hid : n.id = some x
    · rw [hid] at ho'
      rcases value?_publish_built ho' with rfl | hknown
      · exact ⟨n, h.subset List.mem_cons_self, hid, hn.mono hkeeps⟩
      · rw [h.unknown n List.mem_cons_self x hid] at hknown
        cases hknown
    · rw [value?_publish_of_ne hid] at ho'
      obtain ⟨m, hm, hmid, hbuilt⟩ := h.origin x o' ho'
      exact ⟨m, hm, hmid, hbuilt.mono hkeeps⟩

mutual

/-- Building a node without a problem, with `todo` to come after it. -/
theorem build_underway {s : State} (hs : Clean s) : ∀ n todo,
    Underway strict nodes s.registry (n.postorder ++ todo) →
    Passes strict (build s n).2.findings →
    Underway strict nodes (build s n).2.registry todo ∧
      Keeps s.registry (build s n).2.registry
  | ⟨index, kind, type, id, name, location, properties, children, invalid⟩, todo, h, hpasses => by
    have hfirst : s.registry.isDuplicate index = false := isDuplicate_of_clean hs index
    obtain ⟨⟨o, houtcome, -⟩, -⟩ := build_silent hs _ hpasses.silent
    have hconclude := hpasses
    rw [build_state_of_first hfirst, publish_findings] at hconclude
    rw [Node.postorder_eq, List.append_assoc] at h
    obtain ⟨hchildren, hkeeps⟩ :=
      buildChildren_underway hs children _ h (hconclude.of_prefix (conclude_findings _ _ _))
    rw [← conclude_registry ⟨index, kind, type, id, name, location, properties, children, invalid⟩
      (buildChildren s children).1 (buildChildren s children).2] at hchildren hkeeps
    obtain ⟨hnode, hkeeps'⟩ := hchildren.publish ⟨s, hs, hkeeps, houtcome, hpasses⟩
    rw [build_state_of_first hfirst, houtcome]
    exact ⟨hnode, hkeeps.trans hkeeps'⟩

theorem buildChildren_underway {s : State} (hs : Clean s) : ∀ cs todo,
    Underway strict nodes s.registry (Child.postorder cs ++ todo) →
    Passes strict (buildChildren s cs).2.findings →
    Underway strict nodes (buildChildren s cs).2.registry todo ∧
      Keeps s.registry (buildChildren s cs).2.registry
  | [], _, h, _ => ⟨h, .refl _⟩
  | .nested n :: cs, todo, h, hpasses => by
    rw [buildChildren_nested] at hpasses ⊢
    rw [Child.postorder, List.append_assoc] at h
    have hfirst := hpasses.of_prefix (buildChildren_findings _ cs)
    obtain ⟨hnode, hkeeps⟩ := build_underway hs n _ h hfirst
    obtain ⟨hrest, hkeeps'⟩ :=
      buildChildren_underway (build_silent hs n hfirst.silent).2.clean cs todo hnode hpasses
    exact ⟨hrest, hkeeps.trans hkeeps'⟩
  | .reference r :: cs, todo, h, hpasses => by
    rw [buildChildren_reference] at hpasses ⊢
    dsimp only at hpasses ⊢
    obtain ⟨o, hresolve⟩ :=
      resolve_clean hs r (hpasses.of_prefix (buildChildren_findings _ cs)).silent
    rw [hresolve] at hpasses ⊢
    exact buildChildren_underway hs cs todo h hpasses

end

end

/-! ## The start -/

mutual

/-- A walk that no duplicate stops ends every node. -/
theorem tour_closed (seen : List String) :
    ∀ n, repeats seen n = [] → closed (tour seen n) = n.postorder
  | ⟨index, kind, type, id, name, location, properties, children, invalid⟩, h => by
    by_cases hrepeat : Node.isRepeat seen
        ⟨index, kind, type, id, name, location, properties, children, invalid⟩ = true
    · rw [repeats_of_repeat hrepeat] at h
      cases h
    · have hfirst := Bool.eq_false_iff.mpr hrepeat
      rw [repeats_of_first hfirst] at h
      rw [tour_of_first hfirst, closed_opens, closed_append, Node.postorder_eq,
        tourChildren_closed _ _ children h]
      rfl

theorem tourChildren_closed (seen : List String) (parent : Node) :
    ∀ cs, repeatsChildren seen cs = [] →
      closed (tourChildren seen parent cs) = Child.postorder cs
  | [], _ => rfl
  | .nested n :: cs, h => by
    rw [repeatsChildren] at h
    obtain ⟨hnode, hrest⟩ := List.append_eq_nil_iff.mp h
    rw [tourChildren, closed_append, tour_closed seen n hnode,
      tourChildren_closed _ parent cs hrest]
    rfl
  | .reference r :: cs, h => by
    rw [repeatsChildren] at h
    rw [tourChildren, closed_refers, tourChildren_closed seen parent cs h]
    rfl

end

theorem tourAll_closed (forest : List Node) :
    ∀ seen, repeatsAll seen forest = [] → closed (tourAll seen forest) = postorder forest := by
  induction forest with
  | nil => exact fun _ _ => rfl
  | cons n ns ih =>
    intro seen h
    rw [repeatsAll] at h
    obtain ⟨hnode, hrest⟩ := List.append_eq_nil_iff.mp h
    rw [tourAll, closed_append, tour_closed seen n hnode, ih _ hrest]
    rfl

/-- Without a duplicate, no two nodes of a forest have the same id. -/
theorem postorder_ids_nodup {forest : List Node} (h : (declared forest).duplicates = []) :
    ((postorder forest).filterMap (·.id)).Nodup := by
  have hnone : repeatsAll [] forest = [] := by
    rw [declared_eq] at h
    simpa [extend, Registry.empty] using h
  rw [← tourAll_closed forest [] hnone]
  have hperm : ((closed (tourAll [] forest)).filterMap (·.id)).Perm (ids (tourAll [] forest)) :=
    (closed_perm_opened [] forest).filterMap _
  exact hperm.nodup_iff.mpr (tourAll_ids_nodup forest)

/-- At the start nothing is known, and all nodes are to come. -/
theorem initial_underway {strict : Bool} {forest : List Node} (h : Clean (initial forest)) :
    Underway strict (postorder forest) (declared forest) (postorder forest) := by
  have hnone : ∀ id, (declared forest).value? id = none := by
    intro id
    rw [Registry.value?]
    cases hfind : (declared forest).find? id with
    | none => rfl
    | some e =>
      rw [Option.bind_some, pending_of_mem_declared (List.mem_of_find?_eq_some hfind)]
  refine ⟨List.Subset.refl _, postorder_ids_nodup h.unrepeated, fun n _ id _ => hnone id, ?_⟩
  intro id o ho
  rw [hnone] at ho
  cases ho

end Instantiation

end SceneGraph
