import Mathlib.Data.List.Perm.Basic
import SceneGraph.Proofs.Numbering
import SceneGraph.Proofs.Silence

/-!
# Nodes and the elements they are read from

Reading leaves out an element that it cannot make a node of, and reports it.  So a forest that
is read in silence mirrors its elements (`readForest_labels`): there is a node for every element
with a plugin tag that stands in such elements only, and the nodes and elements that belong
together agree in kind, id and position.  Nodes and elements are listed in the order in which
they end.
-/

namespace SceneGraph

open Markup

/-! ## Nodes in the order in which they end -/

mutual

/-- A node behind all nodes in it. -/
def Node.postorder : Node → List Node
  | ⟨index, kind, type, id, name, location, properties, children, invalid⟩ =>
    Child.postorder children ++
      [⟨index, kind, type, id, name, location, properties, children, invalid⟩]

def Child.postorder : List Child → List Node
  | [] => []
  | .nested n :: cs => n.postorder ++ Child.postorder cs
  | .reference _ :: cs => Child.postorder cs

end

/-- All nodes of a forest in the order in which they end. -/
def postorder (forest : List Node) : List Node := forest.flatMap Node.postorder

mutual

/-- An element of a node behind all elements of nodes in it. -/
def Markup.Element.nodes : Element → List Element
  | ⟨tag, attributes, children, location⟩ =>
    Element.nodesAll children ++ [⟨tag, attributes, children, location⟩]

/-- The elements with a plugin tag, and those in them, in the order in which they end. -/
def Markup.Element.nodesAll : List Element → List Element
  | [] => []
  | e :: es =>
    (if (NodeKind.ofTag? e.tag).isSome then e.nodes else []) ++ Element.nodesAll es

end

/-! ## What they have in common -/

/-- What a node keeps of its element, apart from its content. -/
structure Label where
  tag : String
  id : Checked (Option String)
  location : Location

/-- The id is substituted. -/
def Markup.Element.label (params : Parameter.Table) (e : Element) : Label :=
  ⟨e.tag, Attribute.value? params e "id", e.location⟩

def NodeRef.label (r : NodeRef) : Label := ⟨r.kind.name, .of r.id, r.location⟩

def Node.label (n : Node) : Label := n.ref.label

/-! ## Lemmas -/

theorem Node.postorder_eq (n : Node) : n.postorder = Child.postorder n.children ++ [n] := by
  cases n
  rfl

theorem Child.postorder_append (cs ds : List Child) :
    Child.postorder (cs ++ ds) = Child.postorder cs ++ Child.postorder ds := by
  induction cs with
  | nil => rfl
  | cons c cs ih => cases c <;> simp [Child.postorder, ih]

mutual

theorem Node.preorder_perm : ∀ n : Node, n.preorder.Perm n.postorder
  | ⟨_, _, _, _, _, _, _, children, _⟩ =>
    ((Child.preorder_perm children).cons _).trans (List.perm_append_singleton _ _).symm

theorem Child.preorder_perm : ∀ cs : List Child, (Child.preorder cs).Perm (Child.postorder cs)
  | [] => .refl _
  | .nested n :: cs => (Node.preorder_perm n).append (Child.preorder_perm cs)
  | .reference _ :: cs => Child.preorder_perm cs

end

/-- The two orders list the same nodes. -/
theorem preorder_perm (forest : List Node) : (preorder forest).Perm (postorder forest) :=
  List.Perm.flatMap_left _ fun n _ => n.preorder_perm

/-- Children without nodes have none in either order. -/
theorem Child.postorder_of_preorder_nil {cs : List Child} (h : Child.preorder cs = []) :
    Child.postorder cs = [] := by
  have hperm := Child.preorder_perm cs
  rw [h] at hperm
  exact hperm.nil_eq.symm

namespace Node

variable {params : Parameter.Table}

mutual

theorem read_labels : ∀ (e : Element) (kind : NodeKind) (index : Nat),
    NodeKind.ofTag? e.tag = some kind → (read params kind index e).problems = [] →
    ∃ n, (read params kind index e).value = some n ∧ n.label = e.label params ∧
      n.postorder.map label = e.nodes.map (Element.label params)
  | ⟨tag, attributes, children, location⟩, kind, index, hkind, h => by
    obtain ⟨head, hhead, hcontent, hvalue⟩ := read_silent h
    obtain ⟨-, hid, -⟩ := readHead_of hhead
    have hlabel : label (assemble index kind head location
        (readChildren params kind (index + 1) Body.empty children).value) =
        Element.label params ⟨tag, attributes, children, location⟩ := by
      rw [Element.label, hid, ← NodeKind.name_of_ofTag? hkind]
      rfl
    refine ⟨_, hvalue, hlabel, ?_⟩
    rw [postorder_eq, Element.nodes, List.map_append, List.map_append, List.map_singleton,
      List.map_singleton, hlabel]
    congr 1
    exact readChildren_labels children kind (index + 1) Body.empty hcontent

/-- The nodes among the children that are read are added behind those of `b`. -/
theorem readChildren_labels : ∀ (es : List Element) (parent : NodeKind) (next : Nat) (b : Body),
    (readChildren params parent next b es).problems = [] →
    (Child.postorder (readChildren params parent next b es).value.children).map label =
      (Child.postorder b.children).map label ++
        (Element.nodesAll es).map (Element.label params)
  | [], _, _, b, _ => by simp [readChildren, Element.nodesAll]
  | e :: es, parent, next, b, h => by
    rw [readChildren] at h ⊢
    rw [Element.nodesAll]
    split at h
    · next kind hkind =>
      obtain ⟨hnode, hrest⟩ := List.append_eq_nil_iff.mp h
      obtain ⟨n, hn, -, hlabels⟩ := read_labels e kind next hkind hnode
      rw [hn] at hrest
      simp only [hkind, hn, Option.isSome_some, if_true]
      have hadded : Child.postorder (b.addChild (.nested n)).children =
          Child.postorder b.children ++ n.postorder := by
        simp [Body.addChild, Child.postorder_append, Child.postorder]
      rw [readChildren_labels es parent _ _ hrest, hadded, List.map_append, List.map_append,
        List.append_assoc, hlabels]
    · next hkind =>
      obtain ⟨-, hrest⟩ := List.append_eq_nil_iff.mp h
      obtain ⟨refs, hrefs, hnone⟩ := readEntry_preorder params parent e b
      simp only [hkind, Option.isSome_none, Bool.false_eq_true, if_false, List.nil_append]
      rw [readChildren_labels es parent next _ hrest, hrefs, Child.postorder_append,
        Child.postorder_of_preorder_nil hnone, List.append_nil]

end

/-- A forest that is read in silence mirrors the elements: at its top those with a plugin tag,
and all in all those that stand in such elements only. -/
theorem readForest_labels (es : List Element) : ∀ next : Nat,
    (readForest params next es).problems = [] →
    (readForest params next es).value.map label =
        (es.filter fun e => (NodeKind.ofTag? e.tag).isSome).map (Element.label params) ∧
      (SceneGraph.postorder (readForest params next es).value).map label =
        (Element.nodesAll es).map (Element.label params) := by
  induction es with
  | nil =>
    intro next _
    exact ⟨rfl, rfl⟩
  | cons e es ih =>
    intro next h
    rw [readForest] at h ⊢
    rw [Element.nodesAll, List.filter_cons]
    split at h
    · next hdefault =>
      have hnone : NodeKind.ofTag? e.tag = none := by
        rw [hdefault]
        decide
      simp only [if_pos hdefault, hnone, Option.isSome_none, Bool.false_eq_true, if_false,
        List.nil_append]
      exact ih next h
    · next hdefault =>
      split at h
      · next kind hkind =>
        obtain ⟨hnode, hrest⟩ := List.append_eq_nil_iff.mp h
        obtain ⟨n, hn, hlabel, hlabels⟩ := read_labels e kind next hkind hnode
        obtain ⟨htop, hall⟩ := ih _ hrest
        simp only [if_neg hdefault, hkind, hn, Option.isSome_some, if_true, Option.toList_some,
          List.singleton_append, List.map_cons, hlabel, htop, true_and]
        rw [SceneGraph.postorder, List.flatMap_cons, List.map_append, List.map_append, hlabels]
        congr 1
      · cases h

end Node

/-! ## Nodes and elements of a kind -/

/-- The nodes of each kind have the labels of the elements of this kind, in order. -/
def Mirrors (params : Parameter.Table) (nodes : List Node) (es : List Element) : Prop :=
  ∀ k : NodeKind, (nodes.filter (·.kind = k)).map Node.label =
    (es.filter (·.tag = k.name)).map (Element.label params)

theorem NodeKind.name_injective : Function.Injective NodeKind.name := by
  intro j k h
  have hj := ofTag?_name j
  rw [h, ofTag?_name k] at hj
  exact (Option.some.inj hj).symm

/-- Every element with the tag of a kind has a plugin tag. -/
theorem filter_plugin (es : List Element) (k : NodeKind) :
    (es.filter fun e => (NodeKind.ofTag? e.tag).isSome).filter (·.tag = k.name) =
      es.filter (·.tag = k.name) := by
  rw [List.filter_filter]
  apply List.filter_congr
  intro e _
  by_cases htag : e.tag = k.name
  · simp [htag, NodeKind.ofTag?_name]
  · simp [htag]

namespace Mirrors

variable {params : Parameter.Table} {nodes : List Node} {es : List Element}

theorem of_labels (h : nodes.map Node.label = es.map (Element.label params)) :
    Mirrors params nodes es := by
  intro k
  have hnodes : (nodes.filter (·.kind = k)).map Node.label =
      (nodes.map Node.label).filter (·.tag = k.name) := by
    rw [List.filter_map]
    congr 1
    apply List.filter_congr
    intro n _
    simp [Node.label, NodeRef.label, Node.ref, NodeKind.name_injective.eq_iff]
  rw [hnodes, h, List.filter_map]
  rfl

/-- What is read off the labels of nodes is read off those of elements. -/
theorem map_label (h : Mirrors params nodes es) (k : NodeKind) {β : Type} (g : Label → β) :
    (nodes.filter (·.kind = k)).map (fun n => g n.label) =
      (es.filter (·.tag = k.name)).map fun e => g (e.label params) := by
  have hmapped := congrArg (List.map g) (h k)
  rw [List.map_map, List.map_map] at hmapped
  exact hmapped

/-- What keeps the ids of the nodes of a kind keeps those of the elements. -/
theorem ids (h : Mirrors params nodes es) {k : NodeKind} {α : Type} {xs : List α}
    {id : α → Option String} (hxs : xs.map id = (nodes.filter (·.kind = k)).map (·.id)) :
    xs.map (fun x => Checked.of (id x)) =
      (es.filter (·.tag = k.name)).map fun e => Attribute.value? params e "id" := by
  have hsubstituted := congrArg (List.map Checked.of) hxs
  rw [List.map_map, List.map_map] at hsubstituted
  exact hsubstituted.trans (h.map_label k Label.id)

/-- What keeps the ids and the positions of the nodes of a kind keeps those of the elements. -/
theorem places (h : Mirrors params nodes es) {k : NodeKind} {α : Type} {xs : List α}
    {id : α → Option String} {location : α → Location}
    (hxs : xs.map (fun x => (id x, location x)) =
      (nodes.filter (·.kind = k)).map fun n => (n.id, n.location)) :
    xs.map (fun x => (Checked.of (id x), location x)) =
      (es.filter (·.tag = k.name)).map fun e =>
        (Attribute.value? params e "id", e.location) := by
  have hsubstituted := congrArg (List.map (Prod.map Checked.of fun l => l)) hxs
  rw [List.map_map, List.map_map] at hsubstituted
  exact hsubstituted.trans (h.map_label k fun l => (l.id, l.location))

end Mirrors

/-- A forest that is read in silence mirrors the elements, and all its nodes mirror those that
stand in plugin elements only. -/
theorem Node.readForest_mirrors {params : Parameter.Table} {es : List Element} {next : Nat}
    (h : (readForest params next es).problems = []) :
    Mirrors params (readForest params next es).value es ∧
      Mirrors params (SceneGraph.postorder (readForest params next es).value)
        (Element.nodesAll es) := by
  obtain ⟨htop, hall⟩ := readForest_labels es next h
  refine ⟨fun k => ?_, .of_labels hall⟩
  rw [Mirrors.of_labels htop k, filter_plugin]

end SceneGraph
