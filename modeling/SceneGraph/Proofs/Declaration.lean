import SceneGraph.Instantiation
import SceneGraph.Proofs.Tour

/-!
# What is declared before building starts

Declaring the ids of a forest walks through it: `declareAll_eq` says that each visited node
with an id gets an entry, and that exactly the duplicates that stop the walk are remembered;
`declareAll_cites` that they are reported, each with the entry of its id.  The entry of an id
belongs to the one visited node that has it (`find?_declared_some`, `find?_declared_none`).
-/

namespace SceneGraph

theorem exists_of_forall₂ {α β : Type} {R : α → β → Prop} {as : List α} {bs : List β}
    (h : List.Forall₂ R as bs) : ∀ b ∈ bs, ∃ a ∈ as, R a b := by
  induction h with
  | nil => exact List.forall_mem_nil _
  | cons hab _ ih =>
    intro b hb
    rcases List.mem_cons.mp hb with rfl | hb
    · exact ⟨_, List.mem_cons_self, hab⟩
    · obtain ⟨a, ha, hab⟩ := ih b hb
      exact ⟨a, List.mem_cons_of_mem _ ha, hab⟩

/-- The last element of a list stands behind a split of it, or is what the list is split at. -/
theorem split_of_concat {α : Type} {as before after : List α} {a b : α}
    (h : as ++ [b] = before ++ a :: after) :
    (as = before ∧ b = a ∧ after = []) ∨
      ∃ rest, as = before ++ a :: rest ∧ after = rest ++ [b] := by
  rcases List.eq_nil_or_concat after with rfl | ⟨rest, c, rfl⟩
  · obtain ⟨rfl, hb⟩ := List.append_inj' h rfl
    exact .inl ⟨rfl, List.singleton_inj.mp hb, rfl⟩
  · rw [List.concat_eq_append, ← List.cons_append, ← List.append_assoc] at h
    obtain ⟨rfl, hb⟩ := List.append_inj' h rfl
    exact .inr ⟨rest, rfl, by rw [List.concat_eq_append, hb]⟩

namespace Registry

variable {α : Type}

/-- The declared ids. -/
def ids (r : Registry α) : List String := r.entries.map (·.id)

theorem find?_eq_none_iff {r : Registry α} {id : String} : r.find? id = none ↔ id ∉ r.ids := by
  simp [find?, ids]

theorem id_of_find? {r : Registry α} {id : String} {e : Entry α} (h : r.find? id = some e) :
    e.id = id := by
  simpa using List.find?_some h

/-- Changed entries are found where they were. -/
theorem find?_of_entries {r t : Registry α} {f : Entry α → Entry α}
    (h : t.entries = r.entries.map f) (hid : ∀ e, (f e).id = e.id) (x : String) :
    t.find? x = (r.find? x).map f := by
  rw [find?, h, List.find?_map]
  simp only [Function.comp_def, hid]
  rfl

theorem find?_finish (r : Registry α) (id : String) (index : Nat) (st : Status α) (x : String) :
    (r.finish id index st).find? x = (r.find? x).map fun e =>
      if e.id = id ∧ e.index = index then { e with status := st } else e := by
  refine find?_of_entries rfl (fun e => ?_) x
  split <;> rfl

end Registry

namespace Instantiation

/-- The entry that declares a node. -/
def declaration? (n : Node) : Option (Entry Object) :=
  n.id.map fun id => ⟨id, n.kind, n.index, n.location, .pending⟩

/-- A registry with the nodes of a walk declared and some duplicates remembered. -/
def extend (r : Registry Object) (ms : List Mark) (duplicates : List Node) : Registry Object :=
  ⟨r.entries ++ (opened ms).filterMap declaration?, r.duplicates ++ duplicates.map (·.index)⟩

/-! ## Lemmas -/

theorem extend_nil (r : Registry Object) : extend r [] [] = r := by
  simp [extend]

theorem extend_extend (r : Registry Object) (ms ns : List Mark) (ds es : List Node) :
    extend (extend r ms ds) ns es = extend r (ms ++ ns) (ds ++ es) := by
  simp [extend]

theorem ids_extend (r : Registry Object) (ms : List Mark) (ds : List Node) :
    (extend r ms ds).ids = r.ids ++ ids ms := by
  have h : (fun n : Node => (declaration? n).map (·.id)) = (·.id) := by
    funext n
    cases hid : n.id <;> simp [declaration?, hid]
  simp only [extend, Registry.ids, List.map_append, List.map_filterMap, ids, h]

/-- The nodes of a walk count by what starts on it. -/
theorem extend_congr (r : Registry Object) {ms ns : List Mark} (ds : List Node)
    (h : (opened ms).filterMap declaration? = (opened ns).filterMap declaration?) :
    extend r ms ds = extend r ns ds := by
  rw [extend, extend, h]

/-- Declaring a node whose id is taken. -/
theorem declareNode_of_repeat {r : Registry Object} {n : Node} (h : n.isRepeat r.ids = true) :
    (declareNode r n).1 = { r with duplicates := r.duplicates ++ [n.index] } ∧
      ∃ id first, n.id = some id ∧ r.find? id = some first ∧
        (declareNode r n).2 = [.duplicateId id first.location n.location] := by
  obtain ⟨id, hmem, hid⟩ := isRepeat_eq_true.mp h
  cases hfind : r.find? id with
  | none => exact absurd hmem (Registry.find?_eq_none_iff.mp hfind)
  | some first =>
    cases n
    simp only at hid
    subst hid
    rw [declareNode]
    simp only [Registry.declare, hfind]
    exact ⟨trivial, id, first, rfl, hfind, rfl⟩

/-- Declaring a node whose id is new, or that has none. -/
theorem declareNode_of_first {r : Registry Object} {n : Node} (h : n.isRepeat r.ids = false) :
    declareNode r n = declareChildren (extend r [.opens n] []) n.children := by
  cases n with
  | mk index kind type id name location properties children invalid =>
    cases id with
    | none =>
      rw [declareNode]
      congr 1
      show r = ⟨r.entries ++ [], r.duplicates ++ []⟩
      simp
    | some id =>
      have hid : id ∉ r.ids := fun hid => by
        rw [isRepeat_eq_true.mpr ⟨id, hid, rfl⟩] at h
        cases h
      rw [declareNode]
      simp only [Registry.declare, Registry.find?_eq_none_iff.mpr hid]
      congr 1
      simp [extend, declaration?]

mutual

theorem declareNode_eq (r : Registry Object) :
    ∀ n, (declareNode r n).1 = extend r (tour r.ids n) (repeats r.ids n)
  | ⟨index, kind, type, id, name, location, properties, children, invalid⟩ => by
    by_cases h : Node.isRepeat r.ids
        ⟨index, kind, type, id, name, location, properties, children, invalid⟩ = true
    · rw [(declareNode_of_repeat h).1, tour_of_repeat h, repeats_of_repeat h]
      simp [extend]
    · have hfirst := Bool.eq_false_iff.mpr h
      rw [declareNode_of_first hfirst, tour_of_first hfirst, repeats_of_first hfirst,
        declareChildren_eq _ ⟨index, kind, type, id, name, location, properties, children, invalid⟩
          children, ids_extend, extend_extend, List.nil_append]
      rw [ids_opens, ids_nil, List.append_nil]
      refine extend_congr r _ ?_
      simp

theorem declareChildren_eq (r : Registry Object) (parent : Node) :
    ∀ cs, (declareChildren r cs).1 =
      extend r (tourChildren r.ids parent cs) (repeatsChildren r.ids cs)
  | [] => (extend_nil r).symm
  | .nested n :: cs => by
    rw [declareChildren, tourChildren, repeatsChildren]
    simp only [declareNode_eq r n]
    rw [declareChildren_eq _ parent cs, ids_extend, extend_extend]
  | .reference ref :: cs => by
    rw [declareChildren, tourChildren, repeatsChildren, declareChildren_eq r parent cs]
    rfl

end

/-- Declaring a forest walks through it. -/
theorem declareAll_eq (r : Registry Object) (forest : List Node) :
    (declareAll r forest).1 = extend r (tourAll r.ids forest) (repeatsAll r.ids forest) := by
  induction forest generalizing r with
  | nil => exact (extend_nil r).symm
  | cons n ns ih =>
    rw [declareAll, tourAll, repeatsAll]
    simp only [declareNode_eq r n]
    rw [ih, ids_extend, extend_extend]

/-! ## Problems -/

/-- An entry stays the first of its id. -/
theorem find?_extend {r : Registry Object} {id : String} {e : Entry Object}
    (h : r.find? id = some e) (ms : List Mark) (ds : List Node) :
    (extend r ms ds).find? id = some e := by
  unfold Registry.find? at h ⊢
  rw [extend, List.find?_append, h]
  rfl

/-- The problem of a node whose id has an entry. -/
def Cites (r : Registry Object) (n : Node) (p : Problem) : Prop :=
  ∃ id first, n.id = some id ∧ r.find? id = some first ∧
    p = .duplicateId id first.location n.location

theorem Cites.extend {r : Registry Object} {n : Node} {p : Problem} (h : Cites r n p)
    (ms : List Mark) (ds : List Node) : Cites (extend r ms ds) n p := by
  obtain ⟨id, first, hid, hfirst, hp⟩ := h
  exact ⟨id, first, hid, find?_extend hfirst ms ds, hp⟩

mutual

/-- Exactly the duplicates are reported, each with the entry of its id. -/
theorem declareNode_cites (r : Registry Object) :
    ∀ n, List.Forall₂ (Cites (declareNode r n).1) (repeats r.ids n) (declareNode r n).2
  | ⟨index, kind, type, id, name, location, properties, children, invalid⟩ => by
    by_cases h : Node.isRepeat r.ids
        ⟨index, kind, type, id, name, location, properties, children, invalid⟩ = true
    · obtain ⟨hregistry, i, first, hid, hfirst, hp⟩ := declareNode_of_repeat h
      rw [repeats_of_repeat h, hregistry, hp]
      exact .cons ⟨i, first, hid, hfirst, rfl⟩ .nil
    · have hfirst := Bool.eq_false_iff.mpr h
      have hchildren := declareChildren_cites (extend r [.opens
        ⟨index, kind, type, id, name, location, properties, children, invalid⟩] []) children
      rw [declareNode_of_first hfirst, repeats_of_first hfirst]
      rwa [ids_extend, ids_opens, ids_nil, List.append_nil] at hchildren

theorem declareChildren_cites (r : Registry Object) :
    ∀ cs, List.Forall₂ (Cites (declareChildren r cs).1) (repeatsChildren r.ids cs)
      (declareChildren r cs).2
  | [] => .nil
  | .nested n :: cs => by
    have hn := declareNode_cites r n
    have hcs := declareChildren_cites (declareNode r n).1 cs
    rw [declareChildren, repeatsChildren]
    refine List.rel_append (hn.imp fun m p hp => ?_) ?_
    · simp only [declareChildren_eq _ n cs]
      exact hp.extend _ _
    · rwa [declareNode_eq r n, ids_extend, ← declareNode_eq r n] at hcs
  | .reference ref :: cs => by
    rw [declareChildren, repeatsChildren]
    exact declareChildren_cites r cs

end

theorem declareAll_cites (r : Registry Object) (forest : List Node) :
    List.Forall₂ (Cites (declareAll r forest).1) (repeatsAll r.ids forest)
      (declareAll r forest).2 := by
  induction forest generalizing r with
  | nil => exact .nil
  | cons n ns ih =>
    have hns := ih (declareNode r n).1
    rw [declareAll, repeatsAll]
    refine List.rel_append ((declareNode_cites r n).imp fun m p hp => ?_) ?_
    · simp only [declareAll_eq _ ns]
      exact hp.extend _ _
    · rwa [declareNode_eq r n, ids_extend, ← declareNode_eq r n] at hns

/-- Only repeated ids are reported. -/
theorem declareAll_problems (r : Registry Object) (forest : List Node) :
    ∀ p ∈ (declareAll r forest).2, ∃ id first second, p = .duplicateId id first second := by
  intro p hp
  obtain ⟨n, -, id, first, -, -, h⟩ := exists_of_forall₂ (declareAll_cites r forest) p hp
  exact ⟨id, first.location, n.location, h⟩

/-! ## The declared registry -/

/-- The registry in which building starts. -/
def declared (forest : List Node) : Registry Object := (declareAll Registry.empty forest).1

theorem declared_eq (forest : List Node) :
    declared forest = extend Registry.empty (tourAll [] forest) (repeatsAll [] forest) :=
  declareAll_eq Registry.empty forest

/-- What is remembered when everything is declared. -/
theorem isDuplicate_declared {forest : List Node} {i : Nat} :
    (declared forest).isDuplicate i = true ↔ ∃ n ∈ repeatsAll [] forest, n.index = i := by
  rw [declared_eq]
  simp [Registry.isDuplicate, extend, Registry.empty]

/-- The state in which building starts: everything is declared and nothing is built. -/
def initial (forest : List Node) : State :=
  ⟨declared forest, Arena.empty, (declareAll Registry.empty forest).2.map Finding.problem⟩

theorem run_eq (forest : List Node) :
    run forest =
      (⟨(buildAll (initial forest) forest).1, (buildAll (initial forest) forest).2.arena⟩,
        (buildAll (initial forest) forest).2.findings) := rfl

theorem exists_of_mem_declared {forest : List Node} {e : Entry Object}
    (he : e ∈ (declared forest).entries) :
    ∃ n ∈ opened (tourAll [] forest), declaration? n = some e := by
  rw [declared_eq] at he
  exact List.mem_filterMap.mp ((List.mem_append.mp he).resolve_left (by simp [Registry.empty]))

/-- The entry of an id belongs to the visited node that has it. -/
theorem exists_of_find?_declared {forest : List Node} {id : String} {e : Entry Object}
    (h : (declared forest).find? id = some e) :
    ∃ n ∈ opened (tourAll [] forest), n.id = some id ∧
      e = ⟨id, n.kind, n.index, n.location, .pending⟩ := by
  obtain ⟨n, hn, hdeclared⟩ := exists_of_mem_declared (List.mem_of_find?_eq_some h)
  obtain ⟨i, hid, rfl⟩ := Option.map_eq_some_iff.mp hdeclared
  obtain rfl : i = id := Registry.id_of_find? h
  exact ⟨n, hn, hid, rfl⟩

/-- A duplicate is reported with the visited node that has its id. -/
theorem declared_problems {forest : List Node} {p : Problem}
    (hp : p ∈ (declareAll Registry.empty forest).2) :
    ∃ n ∈ repeatsAll [] forest, ∃ owner ∈ opened (tourAll [] forest), ∃ id,
      n.id = some id ∧ owner.id = some id ∧ p = .duplicateId id owner.location n.location := by
  obtain ⟨n, hn, id, first, hid, hfirst, rfl⟩ :=
    exists_of_forall₂ (declareAll_cites Registry.empty forest) p hp
  obtain ⟨owner, howner, hownerid, rfl⟩ := exists_of_find?_declared hfirst
  exact ⟨n, hn, owner, howner, id, hid, hownerid, rfl⟩

/-- Nothing is finished before building starts. -/
theorem pending_of_mem_declared {forest : List Node} {e : Entry Object}
    (he : e ∈ (declared forest).entries) : e.status = .pending := by
  obtain ⟨n, -, hdeclared⟩ := exists_of_mem_declared he
  obtain ⟨id, -, rfl⟩ := Option.map_eq_some_iff.mp hdeclared
  rfl

/-- An id that no visited node has is not declared. -/
theorem find?_declared_none {forest : List Node} {id : String}
    (h : ∀ n ∈ opened (tourAll [] forest), n.id ≠ some id) : (declared forest).find? id = none := by
  rw [Registry.find?_eq_none_iff, declared_eq, ids_extend]
  intro hid
  obtain ⟨n, hn, hnid⟩ := mem_ids.mp ((List.mem_append.mp hid).resolve_left (by simp [Registry.ids,
    Registry.empty]))
  exact h n hn hnid

/-- The id of a visited node is declared by this node. -/
theorem find?_declared_some {forest : List Node} {n : Node} {id : String}
    (hn : n ∈ opened (tourAll [] forest)) (hid : n.id = some id) :
    (declared forest).find? id = some ⟨id, n.kind, n.index, n.location, .pending⟩ := by
  cases hfind : (declared forest).find? id with
  | none =>
    have hmem : id ∈ (declared forest).ids := by
      rw [declared_eq, ids_extend]
      exact List.mem_append_right _ (mem_ids.mpr ⟨n, hn, hid⟩)
    exact absurd hmem (Registry.find?_eq_none_iff.mp hfind)
  | some e =>
    obtain ⟨m, hm, hmid, rfl⟩ := exists_of_find?_declared hfind
    rw [eq_of_id_eq hm hn hmid hid]

end Instantiation

end SceneGraph
