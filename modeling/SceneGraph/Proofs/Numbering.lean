import SceneGraph.Node.Reader
import SceneGraph.Proofs.Elements

/-!
# The numbers of nodes

Nodes are numbered in the order in which they start in the document.  `readForest_follows`:
the nodes of a forest that was read from elements stand in the order of the elements, and their
numbers increase, so no two of them share a number (`readForest_index_nodup`).
-/

namespace SceneGraph

mutual

/-- A node and all nodes in it, in document order. -/
def Node.preorder : Node → List Node
  | ⟨index, kind, type, id, name, location, properties, children, invalid⟩ =>
    ⟨index, kind, type, id, name, location, properties, children, invalid⟩ ::
      Child.preorder children

def Child.preorder : List Child → List Node
  | [] => []
  | .nested n :: cs => n.preorder ++ Child.preorder cs
  | .reference _ :: cs => Child.preorder cs

end

/-- All nodes of a forest in document order. -/
def preorder (forest : List Node) : List Node := forest.flatMap Node.preorder

/-- The numbers increase, and lie in the part that was counted through from `lo` to `hi`. -/
structure Numbered (lo hi : Nat) (nodes : List Node) : Prop where
  increasing : (nodes.map (·.index)).Pairwise (· < ·)
  bounds : ∀ n ∈ nodes, lo ≤ n.index ∧ n.index < hi
  le : lo ≤ hi

/-- Some nodes that were read from elements: numbered, and in the order of the elements. -/
structure Follows (lo hi : Nat) (es : List Markup.Element) (nodes : List Node) : Prop where
  numbered : Numbered lo hi nodes
  places : (nodes.map (·.location)).Sublist (es.map (·.location))

/-! ## Lemmas -/

theorem Node.preorder_eq (n : Node) : n.preorder = n :: Child.preorder n.children := by
  cases n; rfl

theorem Child.preorder_append (cs ds : List Child) :
    Child.preorder (cs ++ ds) = Child.preorder cs ++ Child.preorder ds := by
  induction cs with
  | nil => rfl
  | cons c cs ih => cases c <;> simp [Child.preorder, ih]

theorem Child.preorder_map_nested (forest : List Node) :
    Child.preorder (forest.map .nested) = SceneGraph.preorder forest := by
  induction forest with
  | nil => rfl
  | cons n ns ih =>
    rw [List.map_cons, Child.preorder, ih]
    rfl

namespace Numbered

theorem nil {lo hi : Nat} (h : lo ≤ hi) : Numbered lo hi [] := ⟨by simp, by simp, h⟩

theorem cons {n : Node} {hi : Nat} {nodes : List Node} (h : Numbered (n.index + 1) hi nodes) :
    Numbered n.index hi (n :: nodes) := by
  have hle := h.le
  refine ⟨?_, ?_, by omega⟩
  · rw [List.map_cons, List.pairwise_cons]
    refine ⟨fun i hi' => ?_, h.increasing⟩
    obtain ⟨m, hm, rfl⟩ := List.mem_map.mp hi'
    have := (h.bounds m hm).1
    omega
  · intro m hm
    rcases List.mem_cons.mp hm with rfl | hm
    · omega
    · have := h.bounds m hm
      omega

theorem append {lo mid hi : Nat} {xs ys : List Node} (hx : Numbered lo mid xs)
    (hy : Numbered mid hi ys) : Numbered lo hi (xs ++ ys) := by
  have h1 := hx.le
  have h2 := hy.le
  refine ⟨?_, ?_, by omega⟩
  · rw [List.map_append, List.pairwise_append]
    refine ⟨hx.increasing, hy.increasing, fun i hi' j hj => ?_⟩
    obtain ⟨m, hm, rfl⟩ := List.mem_map.mp hi'
    obtain ⟨k, hk, rfl⟩ := List.mem_map.mp hj
    have := (hx.bounds m hm).2
    have := (hy.bounds k hk).1
    omega
  · intro m hm
    rcases List.mem_append.mp hm with hm | hm
    · have := hx.bounds m hm
      omega
    · have := hy.bounds m hm
      omega

theorem nodup {lo hi : Nat} {nodes : List Node} (h : Numbered lo hi nodes) :
    (nodes.map (·.index)).Nodup := h.increasing.imp fun hij => Nat.ne_of_lt hij

end Numbered

namespace Follows

theorem nil {lo hi : Nat} (h : lo ≤ hi) (es : List Markup.Element) : Follows lo hi es [] :=
  ⟨.nil h, List.nil_sublist _⟩

theorem cons {n : Node} {e : Markup.Element} {hi : Nat} {es : List Markup.Element}
    {nodes : List Node} (h : Follows (n.index + 1) hi es nodes) (hplace : n.location = e.location) :
    Follows n.index hi (e :: es) (n :: nodes) := by
  refine ⟨h.numbered.cons, ?_⟩
  rw [List.map_cons, List.map_cons, hplace]
  exact h.places.cons_cons _

theorem append {lo mid hi : Nat} {es fs : List Markup.Element} {xs ys : List Node}
    (hx : Follows lo mid es xs) (hy : Follows mid hi fs ys) :
    Follows lo hi (es ++ fs) (xs ++ ys) := by
  refine ⟨hx.numbered.append hy.numbered, ?_⟩
  rw [List.map_append, List.map_append]
  exact hx.places.append hy.places

end Follows

namespace Node

variable (params : Parameter.Table)

theorem readProperty_children (parent : NodeKind) (e : Markup.Element)
    (read : String → Checked Value) (b : Body) :
    (readProperty params parent e read b).1.children = b.children := by
  simp only [readProperty]
  split
  · rfl
  · split
    · rfl
    · simp only [Body.addProperty]
      split <;> rfl

/-- What is no nested node adds no node. -/
theorem readEntry_preorder (parent : NodeKind) (e : Markup.Element) (b : Body) :
    ∃ refs, (readEntry params parent e b).1.children = b.children ++ refs ∧
      Child.preorder refs = [] := by
  simp only [readEntry]
  split
  · split
    · exact ⟨[], by simp, rfl⟩
    · exact ⟨[.reference _], rfl, rfl⟩
  · split
    · exact ⟨[], by simp [readProperty_children], rfl⟩
    · split
      · exact ⟨[], by simp [readProperty_children], rfl⟩
      · exact ⟨[], by simp, rfl⟩

mutual

theorem read_follows (kind : NodeKind) (index : Nat) :
    ∀ e, Follows index (read params kind index e).next e.preorder
      ((read params kind index e).value.toList.flatMap preorder)
  | ⟨tag, attributes, children, location⟩ => by
    simp only [read]
    split
    · exact .nil (Nat.le_succ _) _
    · next h _ =>
      obtain ⟨new, hnew, hn⟩ := readChildren_follows kind (index + 1) Body.empty children
      have hchildren : (readChildren params kind (index + 1) Body.empty children).value.children =
          new := hnew
      simp only [Option.toList_some, List.flatMap_cons, List.flatMap_nil, List.append_nil]
      rw [preorder_eq, show (assemble index kind h location _).children = _ from hchildren]
      exact hn.cons (n := assemble index kind h location _) rfl

/-- The children that are added to `b` are numbered on from `next`. -/
theorem readChildren_follows (parent : NodeKind) (next : Nat) (b : Body) :
    ∀ es, ∃ new, (readChildren params parent next b es).value.children = b.children ++ new ∧
      Follows next (readChildren params parent next b es).next (Markup.Element.preorderAll es)
        (Child.preorder new)
  | [] => ⟨[], by simp [readChildren], .nil (Nat.le_refl _) _⟩
  | e :: es => by
    simp only [readChildren]
    split
    · next kind _ =>
      have hread := read_follows kind next e
      cases hv : (read params kind next e).value with
      | none =>
        rw [hv] at hread
        obtain ⟨new, hnew, hn⟩ := readChildren_follows parent (read params kind next e).next b es
        exact ⟨new, by simpa using hnew, hread.append hn⟩
      | some n =>
        rw [hv] at hread
        obtain ⟨new, hnew, hn⟩ := readChildren_follows parent (read params kind next e).next
          (b.addChild (.nested n)) es
        refine ⟨.nested n :: new, ?_, ?_⟩
        · simpa [Body.addChild] using hnew
        · simpa [Child.preorder, Markup.Element.preorderAll] using hread.append hn
    · obtain ⟨refs, hrefs, hnone⟩ := readEntry_preorder params parent e b
      obtain ⟨new, hnew, hn⟩ := readChildren_follows parent next
        (readEntry params parent e b).1 es
      refine ⟨refs ++ new, ?_, ?_⟩
      · rw [hnew, hrefs, List.append_assoc]
      · rw [Child.preorder_append, hnone]
        exact (Follows.nil (Nat.le_refl _) e.preorder).append hn

end

/-- A forest stands in the order of its elements and is numbered in this order. -/
theorem readForest_follows (next : Nat) (es : List Markup.Element) :
    Follows next (readForest params next es).next (Markup.Element.preorderAll es)
      (SceneGraph.preorder (readForest params next es).value) := by
  induction es generalizing next with
  | nil => exact .nil (Nat.le_refl _) _
  | cons e es ih =>
    have hskip : ∀ {hi : Nat} {nodes : List Node},
        Follows next hi (Markup.Element.preorderAll es) nodes →
        Follows next hi (Markup.Element.preorderAll (e :: es)) nodes :=
      fun h => (Follows.nil (Nat.le_refl _) e.preorder).append h
    simp only [readForest]
    split
    · exact hskip (ih next)
    · split
      · next kind _ =>
        simp only [SceneGraph.preorder, List.flatMap_append]
        exact (read_follows params kind next e).append (ih _)
      · exact hskip (ih next)

theorem readForest_index_nodup (next : Nat) (es : List Markup.Element) :
    ((SceneGraph.preorder (readForest params next es).value).map (·.index)).Nodup :=
  (readForest_follows params next es).numbered.nodup

end Node

end SceneGraph
