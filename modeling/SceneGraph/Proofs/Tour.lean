import Mathlib.Data.List.Nodup
import Mathlib.Data.List.Pairwise
import SceneGraph.Proofs.Numbering

/-!
# Walking through a forest

A walk goes through a forest in document order and keeps the ids of the nodes that it has
visited.  A node whose id is among them is a duplicate: the walk leaves it out with all it
contains.  `tourAll` lists what the walk meets, `repeatsAll` the duplicates that stopped it.

No id is visited twice (`tourAll_ids_nodup`), every visited node ends once
(`closed_perm_opened`), and every node of the forest is visited or belongs to a duplicate
(`tourAll_perm`).
-/

namespace SceneGraph

/-- What a walk meets. -/
inductive Mark where
  | opens (n : Node)
  /-- A reference among the children of a node. -/
  | refers (parent : Node) (r : Reference)
  | closes (n : Node)

def Mark.opened? : Mark → Option Node
  | opens n => some n
  | _ => none

def Mark.closed? : Mark → Option Node
  | closes n => some n
  | _ => none

/-- The nodes that start on a walk. -/
def opened (ms : List Mark) : List Node := ms.filterMap Mark.opened?

/-- The nodes that end on a walk. -/
def closed (ms : List Mark) : List Node := ms.filterMap Mark.closed?

/-- The ids of the nodes that start on a walk. -/
def ids (ms : List Mark) : List String := (opened ms).filterMap (·.id)

/-- The id of the node is among those of the nodes visited before. -/
def Node.isRepeat (seen : List String) (n : Node) : Bool := n.id.any seen.contains

mutual

/-- The walk through a node, behind visited nodes with the ids `seen`. -/
def tour (seen : List String) : Node → List Mark
  | ⟨index, kind, type, id, name, location, properties, children, invalid⟩ =>
    let n : Node := ⟨index, kind, type, id, name, location, properties, children, invalid⟩
    if n.isRepeat seen then []
    else .opens n :: (tourChildren (seen ++ id.toList) n children ++ [.closes n])

def tourChildren (seen : List String) (parent : Node) : List Child → List Mark
  | [] => []
  | .nested n :: cs => tour seen n ++ tourChildren (seen ++ ids (tour seen n)) parent cs
  | .reference r :: cs => .refers parent r :: tourChildren seen parent cs

end

/-- The walk through a forest. -/
def tourAll (seen : List String) : List Node → List Mark
  | [] => []
  | n :: ns => tour seen n ++ tourAll (seen ++ ids (tour seen n)) ns

mutual

/-- The duplicates that stop the walk through a node. -/
def repeats (seen : List String) : Node → List Node
  | ⟨index, kind, type, id, name, location, properties, children, invalid⟩ =>
    let n : Node := ⟨index, kind, type, id, name, location, properties, children, invalid⟩
    if n.isRepeat seen then [n] else repeatsChildren (seen ++ id.toList) children

def repeatsChildren (seen : List String) : List Child → List Node
  | [] => []
  | .nested n :: cs => repeats seen n ++ repeatsChildren (seen ++ ids (tour seen n)) cs
  | .reference _ :: cs => repeatsChildren seen cs

end

def repeatsAll (seen : List String) : List Node → List Node
  | [] => []
  | n :: ns => repeats seen n ++ repeatsAll (seen ++ ids (tour seen n)) ns

/-! ## One step of the walk -/

theorem tour_of_repeat {seen : List String} {n : Node} (h : n.isRepeat seen = true) :
    tour seen n = [] := by
  cases n
  rw [tour]
  exact if_pos h

theorem tour_of_first {seen : List String} {n : Node} (h : n.isRepeat seen = false) :
    tour seen n =
      .opens n :: (tourChildren (seen ++ n.id.toList) n n.children ++ [.closes n]) := by
  cases n
  rw [tour]
  exact if_neg (by rw [h]; exact Bool.false_ne_true)

theorem repeats_of_repeat {seen : List String} {n : Node} (h : n.isRepeat seen = true) :
    repeats seen n = [n] := by
  cases n
  rw [repeats]
  exact if_pos h

theorem repeats_of_first {seen : List String} {n : Node} (h : n.isRepeat seen = false) :
    repeats seen n = repeatsChildren (seen ++ n.id.toList) n.children := by
  cases n
  rw [repeats]
  exact if_neg (by rw [h]; exact Bool.false_ne_true)

@[simp] theorem opened_nil : opened [] = [] := rfl

@[simp] theorem closed_nil : closed [] = [] := rfl

@[simp] theorem ids_nil : ids [] = [] := rfl

@[simp] theorem opened_append (ms ns : List Mark) : opened (ms ++ ns) = opened ms ++ opened ns :=
  List.filterMap_append

@[simp] theorem closed_append (ms ns : List Mark) : closed (ms ++ ns) = closed ms ++ closed ns :=
  List.filterMap_append

@[simp] theorem ids_append (ms ns : List Mark) : ids (ms ++ ns) = ids ms ++ ids ns := by
  simp [ids]

@[simp] theorem opened_opens (n : Node) (ms : List Mark) :
    opened (.opens n :: ms) = n :: opened ms := rfl

@[simp] theorem opened_refers (p : Node) (r : Reference) (ms : List Mark) :
    opened (.refers p r :: ms) = opened ms := rfl

@[simp] theorem opened_closes (n : Node) (ms : List Mark) :
    opened (.closes n :: ms) = opened ms := rfl

@[simp] theorem closed_opens (n : Node) (ms : List Mark) :
    closed (.opens n :: ms) = closed ms := rfl

@[simp] theorem closed_refers (p : Node) (r : Reference) (ms : List Mark) :
    closed (.refers p r :: ms) = closed ms := rfl

@[simp] theorem closed_closes (n : Node) (ms : List Mark) :
    closed (.closes n :: ms) = n :: closed ms := rfl

@[simp] theorem ids_opens (n : Node) (ms : List Mark) :
    ids (.opens n :: ms) = n.id.toList ++ ids ms := by
  cases hid : n.id <;> simp [ids, hid]

@[simp] theorem ids_closes (n : Node) (ms : List Mark) : ids (.closes n :: ms) = ids ms := rfl

@[simp] theorem ids_refers (p : Node) (r : Reference) (ms : List Mark) :
    ids (.refers p r :: ms) = ids ms := rfl

/-- The ids that a walk through a first declaration adds. -/
theorem ids_tour_of_first {seen : List String} {n : Node} (h : n.isRepeat seen = false) :
    ids (tour seen n) =
      n.id.toList ++ ids (tourChildren (seen ++ n.id.toList) n n.children) := by
  simp [tour_of_first h]

theorem mem_closed {n : Node} {ms : List Mark} : n ∈ closed ms ↔ .closes n ∈ ms := by
  simp only [closed, List.mem_filterMap]
  constructor
  · rintro ⟨m, hm, h⟩
    cases m <;> simp_all [Mark.closed?]
  · exact fun h => ⟨_, h, rfl⟩

theorem mem_ids {id : String} {ms : List Mark} :
    id ∈ ids ms ↔ ∃ n ∈ opened ms, n.id = some id := by
  simp [ids, List.mem_filterMap]

theorem isRepeat_eq_true {seen : List String} {n : Node} :
    n.isRepeat seen = true ↔ ∃ id ∈ seen, n.id = some id := by
  cases h : n.id <;> simp [Node.isRepeat, h, eq_comm]

/-! ## Ids -/

mutual

/-- No id is visited twice. -/
theorem tour_ids_nodup (seen : List String) (hseen : seen.Nodup) :
    ∀ n, (seen ++ ids (tour seen n)).Nodup
  | ⟨index, kind, type, id, name, location, properties, children, invalid⟩ => by
    by_cases h : Node.isRepeat seen
        ⟨index, kind, type, id, name, location, properties, children, invalid⟩ = true
    · rw [tour_of_repeat h]
      simpa using hseen
    · have hfirst := Bool.eq_false_iff.mpr h
      rw [ids_tour_of_first hfirst, ← List.append_assoc]
      refine tourChildren_ids_nodup _ ?_ _ children
      cases id with
      | none => simpa using hseen
      | some id =>
        have hid : id ∉ seen := fun hid => h (isRepeat_eq_true.mpr ⟨id, hid, rfl⟩)
        exact List.nodup_append.mpr ⟨hseen, by simp, by
          rintro a ha b hb rfl
          exact hid (by simpa using List.mem_singleton.mp hb ▸ ha)⟩

theorem tourChildren_ids_nodup (seen : List String) (hseen : seen.Nodup) (parent : Node) :
    ∀ cs, (seen ++ ids (tourChildren seen parent cs)).Nodup
  | [] => by simpa [tourChildren] using hseen
  | .nested n :: cs => by
    rw [tourChildren, ids_append, ← List.append_assoc]
    exact tourChildren_ids_nodup _ (tour_ids_nodup seen hseen n) parent cs
  | .reference r :: cs => by
    rw [tourChildren, ids_refers]
    exact tourChildren_ids_nodup seen hseen parent cs

end

theorem tourAll_ids_nodup_from (seen : List String) (hseen : seen.Nodup) (forest : List Node) :
    (seen ++ ids (tourAll seen forest)).Nodup := by
  induction forest generalizing seen with
  | nil => simpa [tourAll] using hseen
  | cons n ns ih =>
    rw [tourAll, ids_append, ← List.append_assoc]
    exact ih _ (tour_ids_nodup seen hseen n)

theorem tourAll_ids_nodup (forest : List Node) : (ids (tourAll [] forest)).Nodup := by
  simpa using tourAll_ids_nodup_from [] List.nodup_nil forest

/-- Where no id is repeated, what has one is known by it. -/
theorem eq_of_ids_nodup {α : Type} {id? : α → Option String} {xs : List α}
    (h : (xs.filterMap id?).Nodup) {x y : α} {id : String} (hx : x ∈ xs) (hy : y ∈ xs)
    (hxid : id? x = some id) (hyid : id? y = some id) : x = y := by
  by_contra hne
  have hpw := List.pairwise_filterMap.mp h
  have hsymm : Std.Symm fun a b : α =>
      ∀ i, id? a = some i → ∀ j, id? b = some j → i ≠ j :=
    ⟨fun a b h i hi j hj => (h j hj i hi).symm⟩
  exact hpw.forall hx hy hne id hxid id hyid rfl

/-- A visited node is known by its id. -/
theorem eq_of_id_eq {forest : List Node} {m n : Node} {id : String}
    (hm : m ∈ opened (tourAll [] forest)) (hn : n ∈ opened (tourAll [] forest))
    (hmid : m.id = some id) (hnid : n.id = some id) : m = n :=
  eq_of_ids_nodup (tourAll_ids_nodup forest) hm hn hmid hnid

/-! ## Ends -/

mutual

theorem tour_closed_perm (seen : List String) :
    ∀ n, (closed (tour seen n)).Perm (opened (tour seen n))
  | ⟨index, kind, type, id, name, location, properties, children, invalid⟩ => by
    by_cases h : Node.isRepeat seen
        ⟨index, kind, type, id, name, location, properties, children, invalid⟩ = true
    · rw [tour_of_repeat h]
      exact .refl _
    · rw [tour_of_first (Bool.eq_false_iff.mpr h)]
      have hchildren := tourChildren_closed_perm (seen ++ id.toList)
        ⟨index, kind, type, id, name, location, properties, children, invalid⟩ children
      simp only [closed_opens, closed_append, opened_opens, opened_append, closed_closes,
        opened_closes, closed_nil, opened_nil, List.append_nil]
      exact List.perm_append_comm.trans (hchildren.cons _)

theorem tourChildren_closed_perm (seen : List String) (parent : Node) :
    ∀ cs, (closed (tourChildren seen parent cs)).Perm (opened (tourChildren seen parent cs))
  | [] => .refl _
  | .nested n :: cs => by
    rw [tourChildren, closed_append, opened_append]
    exact (tour_closed_perm seen n).append (tourChildren_closed_perm _ parent cs)
  | .reference r :: cs => by
    rw [tourChildren]
    exact tourChildren_closed_perm seen parent cs

end

/-- Exactly the nodes that start on a walk end on it. -/
theorem closed_perm_opened (seen : List String) (forest : List Node) :
    (closed (tourAll seen forest)).Perm (opened (tourAll seen forest)) := by
  induction forest generalizing seen with
  | nil => exact .refl _
  | cons n ns ih =>
    rw [tourAll, closed_append, opened_append]
    exact (tour_closed_perm seen n).append (ih _)

/-! ## What is met and what is left out -/

theorem perm_interleave {α : Type} {as bs cs ds xs ys : List α} (hx : (as ++ bs).Perm xs)
    (hy : (cs ++ ds).Perm ys) : ((as ++ cs) ++ (bs ++ ds)).Perm (xs ++ ys) := by
  have hswap : ((as ++ cs) ++ (bs ++ ds)).Perm ((as ++ bs) ++ (cs ++ ds)) := by
    simp only [List.append_assoc]
    exact List.perm_append_comm_assoc cs bs ds |>.append_left as
  exact hswap.trans (hx.append hy)

mutual

theorem tour_perm (seen : List String) :
    ∀ n, (opened (tour seen n) ++ (repeats seen n).flatMap Node.preorder).Perm n.preorder
  | ⟨index, kind, type, id, name, location, properties, children, invalid⟩ => by
    by_cases h : Node.isRepeat seen
        ⟨index, kind, type, id, name, location, properties, children, invalid⟩ = true
    · rw [tour_of_repeat h, repeats_of_repeat h]
      simp
    · have hfirst := Bool.eq_false_iff.mpr h
      have hchildren := tourChildren_perm (seen ++ id.toList)
        ⟨index, kind, type, id, name, location, properties, children, invalid⟩ children
      rw [tour_of_first hfirst, repeats_of_first hfirst, Node.preorder_eq]
      simp only [opened_opens, opened_append, opened_closes, opened_nil, List.append_nil,
        List.cons_append]
      exact hchildren.cons _

theorem tourChildren_perm (seen : List String) (parent : Node) :
    ∀ cs, (opened (tourChildren seen parent cs) ++
      (repeatsChildren seen cs).flatMap Node.preorder).Perm (Child.preorder cs)
  | [] => .refl _
  | .nested n :: cs => by
    rw [tourChildren, repeatsChildren, Child.preorder, opened_append, List.flatMap_append]
    exact perm_interleave (tour_perm seen n) (tourChildren_perm _ parent cs)
  | .reference r :: cs => by
    rw [tourChildren, repeatsChildren, Child.preorder, opened_refers]
    exact tourChildren_perm seen parent cs

end

/-- Every node of a forest is visited, or a duplicate, or in a duplicate. -/
theorem tourAll_perm (seen : List String) (forest : List Node) :
    (opened (tourAll seen forest) ++ (repeatsAll seen forest).flatMap Node.preorder).Perm
      (preorder forest) := by
  induction forest generalizing seen with
  | nil => exact .refl _
  | cons n ns ih =>
    rw [tourAll, repeatsAll, preorder, List.flatMap_cons, opened_append, List.flatMap_append]
    exact perm_interleave (tour_perm seen n) (ih _)

theorem opened_subset_preorder (forest : List Node) :
    opened (tourAll [] forest) ⊆ preorder forest :=
  List.Subset.trans (List.subset_append_left _ _) (tourAll_perm [] forest).subset

/-- A node is one of those that it contains. -/
theorem subset_flatMap_preorder (nodes : List Node) : nodes ⊆ nodes.flatMap Node.preorder := by
  intro n hn
  refine List.mem_flatMap.mpr ⟨n, hn, ?_⟩
  rw [Node.preorder_eq]
  exact List.mem_cons_self

theorem repeats_subset_preorder (forest : List Node) : repeatsAll [] forest ⊆ preorder forest :=
  List.Subset.trans (subset_flatMap_preorder _)
    (List.Subset.trans (List.subset_append_right _ _) (tourAll_perm [] forest).subset)

/-- In a numbered forest a visited node shares its number with no other visited node, and with
no node that is a duplicate or in one. -/
theorem tourAll_index_nodup {forest : List Node}
    (hindex : ((preorder forest).map (·.index)).Nodup) :
    ((opened (tourAll [] forest)).map (·.index) ++
      ((repeatsAll [] forest).flatMap Node.preorder).map (·.index)).Nodup := by
  rw [← List.map_append]
  exact ((tourAll_perm [] forest).map _).nodup_iff.mpr hindex

section

variable {forest : List Node} (hindex : ((preorder forest).map (·.index)).Nodup)

include hindex

/-- In a numbered forest no visited node has the number of a duplicate. -/
theorem index_ne_of_mem_repeatsAll {m n : Node} (hm : m ∈ opened (tourAll [] forest))
    (hn : n ∈ repeatsAll [] forest) : m.index ≠ n.index :=
  (List.nodup_append.mp (tourAll_index_nodup hindex)).2.2 _ (List.mem_map_of_mem hm) _
    (List.mem_map_of_mem (subset_flatMap_preorder _ hn))

theorem opened_index_nodup : ((opened (tourAll [] forest)).map (·.index)).Nodup :=
  (List.nodup_append.mp (tourAll_index_nodup hindex)).1

theorem closed_index_nodup : ((closed (tourAll [] forest)).map (·.index)).Nodup :=
  ((closed_perm_opened [] forest).map _).nodup_iff.mpr (opened_index_nodup hindex)

end

end SceneGraph
