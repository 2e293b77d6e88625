import Mathlib.Data.List.Forall2
import SceneGraph.Proofs.Accounts
import SceneGraph.Proofs.Success

/-!
# The tree of nodes and the tree of elements

Reading reports at least one problem for every element that comes to nothing, so where it reports
none the nodes are a true copy of the plugin elements: one node for each, in document order,
numbered from zero, with a property for each literal and transform in it and a child for each
plugin element and reference in it (`Node.Mirrors`).

`readForest_accounted` says so of every root element, and what holds even where something is
reported: no node has two properties of one name, and the numbers increase in document order.
-/

namespace SceneGraph

open Markup

/-! ## Definitions -/

mutual

/-- An element of a node in front of all elements of nodes in it. -/
def Markup.Element.pluginTree : Element → List Element
  | ⟨tag, attributes, children, location⟩ =>
    ⟨tag, attributes, children, location⟩ :: Element.pluginForest children

/-- The elements with a plugin tag, and those in them, in document order. -/
def Markup.Element.pluginForest : List Element → List Element
  | [] => []
  | e :: es =>
    (if (NodeKind.ofTag? e.tag).isSome then e.pluginTree else []) ++ Element.pluginForest es

end

/-- A literal or a transform. -/
def Markup.Element.isProperty (e : Element) : Bool :=
  e.tag = "transform" || (LiteralKind.ofTag? e.tag).isSome

/-- A plugin element or a reference. -/
def Markup.Element.isChild (e : Element) : Bool :=
  e.tag = "ref" || (NodeKind.ofTag? e.tag).isSome

variable (params : Parameter.Table)

/-- A node with all that its element declares, in document order, and nothing else. -/
structure Node.Mirrors (e : Element) (n : Node) : Prop extends n.Of params e where
  properties : List.Forall₂ (Property.Of params) (e.children.filter (·.isProperty)) n.properties
  children : List.Forall₂ (Child.Of params) (e.children.filter (·.isChild)) n.children
  invalid : n.invalid = []

/-- The node of a child that is not a reference. -/
def Child.node? : Child → Option Node
  | nested n => some n
  | reference _ => none

/-- The nodes are numbered one by one from `lo` on, and `hi` is the next number. -/
structure Counted (lo hi : Nat) (nodes : List Node) : Prop where
  numbers : nodes.map (·.index) = List.range' lo nodes.length
  next : hi = lo + nodes.length

/-- A forest with one node for every plugin element, in document order and numbered from zero. -/
structure MirrorsForest (es : List Element) (forest : List Node) : Prop where
  roots :
    List.Forall₂ (Node.Mirrors params) (es.filter fun e => (NodeKind.ofTag? e.tag).isSome) forest
  nodes : List.Forall₂ (Node.Mirrors params) (Element.pluginForest es) (preorder forest)
  numbers : (preorder forest).map (·.index) = List.range (Element.pluginForest es).length

variable {params}

namespace Account

/-! ## Where nothing is reported -/

theorem kept_of_silent {as : List Account} (h : ∀ x ∈ allIn as, x.Right params)
    (hsilent : (allIn as).flatMap own = []) : ∀ x ∈ allIn as, x.isDropped = false := by
  intro x hx
  have hown := List.flatMap_eq_nil_iff.mp hsilent x hx
  cases x with
  | dropped e unread problems => exact absurd hown (h _ hx).2.1
  | _ => rfl

/-- An element that became something has the tag for it. -/
theorem tags_of_right {a : Account} (h : a.Right params) (hkept : a.isDropped = false) :
    a.element.isProperty = a.property?.isSome ∧ a.element.isChild = a.child?.isSome ∧
      (NodeKind.ofTag? a.element.tag).isSome = a.node?.isSome := by
  cases a with
  | dropped e unread problems => cases hkept
  | property e p =>
    change _ = true ∧ _ = false ∧ _ = false
    rcases h.value with ⟨htag, -⟩ | ⟨kind, hkind, -⟩
    · simp only [element, Element.isProperty, Element.isChild, htag]
      decide
    · rw [element, Element.isProperty, Element.isChild, ← LiteralKind.name_of_ofTag? hkind]
      cases kind <;> decide
  | reference e r =>
    change _ = false ∧ _ = true ∧ _ = false
    simp only [element, Element.isProperty, Element.isChild, h.tag]
    decide
  | node e n inner =>
    change _ = false ∧ _ = true ∧ _ = true
    rw [element, Element.isProperty, Element.isChild, ← NodeKind.name_of_ofTag? h.1.kind]
    cases n.kind <;> decide

/-- What elements became is of them, one by one. -/
theorem forall₂_kept {β : Type} {R : Element → β → Prop} {p : Element → Bool}
    {got? : Account → Option β} {as : List Account}
    (htag : ∀ a ∈ as, p a.element = (got? a).isSome)
    (hof : ∀ a ∈ as, ∀ b, got? a = some b → R a.element b) :
    List.Forall₂ R ((as.map element).filter p) (as.filterMap got?) := by
  induction as with
  | nil => exact .nil
  | cons a as ih =>
    obtain ⟨htag, htags⟩ := List.forall_mem_cons.mp htag
    obtain ⟨hof, hofs⟩ := List.forall_mem_cons.mp hof
    rw [List.map_cons]
    cases hgot : got? a with
    | none =>
      rw [hgot] at htag
      rw [List.filter_cons_of_neg (by simp [htag]), List.filterMap_cons_none hgot]
      exact ih htags hofs
    | some b =>
      rw [hgot] at htag
      rw [List.filter_cons_of_pos (by simp [htag]), List.filterMap_cons_some hgot]
      exact .cons (hof b hgot) (ih htags hofs)

/-- A node of whose content nothing was dropped mirrors its element. -/
theorem mirrors_of_kept {e : Element} {n : Node} {inner : List Account}
    (hof : n.Of params e) (hholds : n.Holds e.children inner)
    (h : ∀ a ∈ inner, a.Right params ∧ a.isDropped = false) : n.Mirrors params e := by
  refine ⟨hof, ?_, ?_, ?_⟩
  · rw [← hholds.elements, hholds.properties]
    exact forall₂_kept (fun a ha => (tags_of_right (h a ha).1 (h a ha).2).1)
      fun a ha p hp => property_of_right (h a ha).1 hp
  · rw [← hholds.elements, hholds.children]
    exact forall₂_kept (fun a ha => (tags_of_right (h a ha).1 (h a ha).2).2.1)
      fun a ha c hc => child_of_right (h a ha).1 hc
  · rw [hholds.invalid, List.filterMap_eq_nil_iff]
    intro a ha
    have hkept := (h a ha).2
    cases a with
    | dropped e unread problems => cases hkept
    | _ => rfl

mutual

/-- Where nothing is dropped, the elements that became nodes are all plugin elements. -/
theorem all_elements : ∀ a : Account, (∀ x ∈ a.all, x.Right params ∧ x.isDropped = false) →
    (a.all.filterMap node?).map Prod.fst =
      if (NodeKind.ofTag? a.element.tag).isSome then a.element.pluginTree else []
  | dropped e unread problems, h => by cases (h _ (List.mem_singleton_self _)).2
  | property e p, h => by
    obtain ⟨hright, hkept⟩ := h _ (List.mem_singleton_self _)
    rw [(tags_of_right hright hkept).2.2]
    rfl
  | reference e r, h => by
    obtain ⟨hright, hkept⟩ := h _ (List.mem_singleton_self _)
    rw [(tags_of_right hright hkept).2.2]
    rfl
  | node ⟨tag, attributes, children, location⟩ n inner, h => by
    obtain ⟨⟨hright, hkept⟩, hinner⟩ := List.forall_mem_cons.mp h
    have hrest := allIn_elements inner hinner
    rw [hright.2.elements] at hrest
    rw [(tags_of_right hright hkept).2.2]
    simp [all, node?, element, Element.pluginTree, hrest]

theorem allIn_elements : ∀ as : List Account,
    (∀ x ∈ allIn as, x.Right params ∧ x.isDropped = false) →
    ((allIn as).filterMap node?).map Prod.fst = Element.pluginForest (as.map element)
  | [], _ => rfl
  | a :: as, h => by
    obtain ⟨ha, has⟩ := List.forall_mem_append.mp h
    rw [allIn, List.filterMap_append, List.map_append, all_elements a ha, allIn_elements as has,
      List.map_cons, Element.pluginForest]

end

/-- Where nothing is dropped, the plugin elements themselves became the nodes. -/
theorem forall₂_roots {as : List Account}
    (h : ∀ x ∈ allIn as, x.Right params ∧ x.isDropped = false) :
    List.Forall₂ (Node.Mirrors params)
      ((as.map element).filter fun e => (NodeKind.ofTag? e.tag).isSome)
      ((as.filterMap child?).filterMap Child.node?) := by
  rw [List.filterMap_filterMap]
  refine forall₂_kept (fun a ha => ?_) fun a ha n hn => ?_
  · obtain ⟨hright, hkept⟩ := h a (subset_allIn as ha)
    rw [(tags_of_right hright hkept).2.2]
    cases a <;> rfl
  · cases a with
    | node e m inner =>
      obtain rfl := Option.some.inj hn
      have hmem := subset_allIn as ha
      obtain ⟨⟨hof, hholds⟩, -⟩ := h _ hmem
      exact mirrors_of_kept hof hholds fun x hx => h x (inner_subset hmem hx)
    | _ => cases hn

/-- Where nothing is dropped, the nodes mirror the plugin elements, one by one. -/
theorem forall₂_mirrors {as : List Account}
    (h : ∀ x ∈ allIn as, x.Right params ∧ x.isDropped = false) :
    List.Forall₂ (Node.Mirrors params) (Element.pluginForest (as.map element))
      (Child.preorder (as.filterMap child?)) := by
  rw [← allIn_elements as h, ← allIn_nodes as fun x hx => (h x hx).1, List.forall₂_map_left_iff,
    List.forall₂_map_right_iff, List.forall₂_same]
  rintro ⟨e, n⟩ hmem
  obtain ⟨a, ha, hnode⟩ := List.mem_filterMap.mp hmem
  cases a with
  | node e' n' inner =>
    obtain ⟨rfl, rfl⟩ := Prod.mk.inj (Option.some.inj hnode)
    obtain ⟨hof, hholds⟩ := (h _ ha).1
    exact mirrors_of_kept hof hholds fun x hx => h x (inner_subset ha hx)
  | _ => cases hnode

end Account

/-! ## Numbers -/

namespace Counted

theorem nil (lo : Nat) : Counted lo lo [] := ⟨rfl, rfl⟩

theorem cons {n : Node} {hi : Nat} {nodes : List Node} (h : Counted (n.index + 1) hi nodes) :
    Counted n.index hi (n :: nodes) where
  numbers := by rw [List.map_cons, h.numbers, List.length_cons, List.range'_succ]
  next := by rw [h.next, List.length_cons]; omega

theorem append {lo mid hi : Nat} {xs ys : List Node} (hx : Counted lo mid xs)
    (hy : Counted mid hi ys) : Counted lo hi (xs ++ ys) where
  numbers := by
    rw [List.map_append, hx.numbers, hy.numbers, hx.next, List.length_append,
      ← List.range'_append_1]
  next := by rw [hy.next, hx.next, List.length_append, Nat.add_assoc]

end Counted

theorem Child.nodes_map_nested (forest : List Node) :
    (forest.map Child.nested).filterMap Child.node? = forest := by
  rw [List.filterMap_map]
  exact List.filterMap_some

/-- A default is no plugin element. -/
theorem Markup.Element.filter_plugin (es : List Element) :
    (es.filter (·.tag ≠ "default")).filter (fun e => (NodeKind.ofTag? e.tag).isSome) =
      es.filter fun e => (NodeKind.ofTag? e.tag).isSome := by
  rw [List.filter_filter]
  refine List.filter_congr fun e _ => ?_
  by_cases hdefault : e.tag = "default"
  · rw [hdefault]
    rfl
  · simp [hdefault]

theorem Markup.Element.pluginForest_filter (es : List Element) :
    Element.pluginForest (es.filter (·.tag ≠ "default")) = Element.pluginForest es := by
  induction es with
  | nil => rfl
  | cons e es ih =>
    by_cases hdefault : e.tag = "default"
    · rw [List.filter_cons_of_neg (by simpa using hdefault), ih, Element.pluginForest, hdefault]
      rfl
    · rw [List.filter_cons_of_pos (by simpa using hdefault), Element.pluginForest, ih,
        Element.pluginForest]

namespace Node

mutual

/-- In silence every number that is taken is given to a node. -/
theorem read_counted (kind : NodeKind) (index : Nat) : ∀ e : Element,
    (read params kind index e).problems = [] → ∃ n, (read params kind index e).value = some n ∧
      Counted index (read params kind index e).next n.preorder
  | ⟨tag, attributes, children, location⟩, h => by
    obtain ⟨head, hhead, hcontent, hvalue⟩ := read_silent h
    obtain ⟨new, hnew, hcounted⟩ :=
      readChildren_counted kind (index + 1) Body.empty children hcontent
    refine ⟨_, hvalue, ?_⟩
    rw [read, hhead, preorder_eq]
    rw [show new = _ from hnew.symm] at hcounted
    exact hcounted.cons (n := assemble index kind head location _)

theorem readChildren_counted (parent : NodeKind) (next : Nat) (b : Body) : ∀ es : List Element,
    (readChildren params parent next b es).problems = [] →
      ∃ new, (readChildren params parent next b es).value.children = b.children ++ new ∧
        Counted next (readChildren params parent next b es).next (Child.preorder new)
  | [], _ => ⟨[], (List.append_nil _).symm, .nil next⟩
  | e :: es, h => by
    rw [readChildren] at h ⊢
    split at h
    · next kind hkind =>
      obtain ⟨hnode, hrest⟩ := List.append_eq_nil_iff.mp h
      obtain ⟨n, hn, hcounted⟩ := read_counted kind next e hnode
      simp only [hn] at hrest ⊢
      obtain ⟨new, hnew, hcountedRest⟩ := readChildren_counted parent _ _ es hrest
      refine ⟨.nested n :: new, ?_, hcounted.append hcountedRest⟩
      rw [hnew, Body.addChild, List.append_assoc, List.singleton_append]
    · next hkind =>
      obtain ⟨refs, hrefs, hnone⟩ := readEntry_preorder params parent e b
      obtain ⟨new, hnew, hcounted⟩ :=
        readChildren_counted parent next _ es (List.append_eq_nil_iff.mp h).2
      refine ⟨refs ++ new, ?_, ?_⟩
      · rw [hnew, hrefs, List.append_assoc]
      · rw [Child.preorder_append, hnone]
        exact hcounted

end

theorem readForest_counted (next : Nat) (es : List Element)
    (h : (readForest params next es).problems = []) :
    Counted next (readForest params next es).next
      (SceneGraph.preorder (readForest params next es).value) := by
  induction es generalizing next with
  | nil => exact .nil next
  | cons e es ih =>
    rw [readForest] at h ⊢
    split at h
    · next hdefault =>
      rw [if_pos hdefault]
      exact ih next h
    · next hdefault =>
      rw [if_neg hdefault]
      split at h
      · next kind hkind =>
        obtain ⟨hnode, hrest⟩ := List.append_eq_nil_iff.mp h
        obtain ⟨n, hn, hcounted⟩ := read_counted kind next e hnode
        simp only [hn]
        exact hcounted.append (ih _ hrest)
      · cases h

/-! ## The forest of a description -/

/-- Without a problem the nodes mirror the plugin elements. -/
theorem readForest_mirrorsForest {es : List Element}
    (hsilent : (readForest params 0 es).problems = []) :
    MirrorsForest params es (readForest params 0 es).value := by
  obtain ⟨accounts, h⟩ := @readForest_explained params es 0 Body.empty
  have hchildren : (readForest params 0 es).value.map .nested =
      accounts.filterMap Account.child? := h.children
  have hproblems : (readForest params 0 es).problems =
      (Account.allIn accounts).flatMap Account.own := h.problems
  have hkept : ∀ a ∈ Account.allIn accounts, a.Right params ∧ a.isDropped = false :=
    fun a ha => ⟨h.right a ha, Account.kept_of_silent h.right (hproblems.symm.trans hsilent) a ha⟩
  have hroots := Account.forall₂_roots hkept
  rw [h.elements, Element.filter_plugin, ← hchildren, Child.nodes_map_nested] at hroots
  have hmirrors := Account.forall₂_mirrors hkept
  rw [h.elements, Element.pluginForest_filter, ← hchildren, Child.preorder_map_nested] at hmirrors
  refine ⟨hroots, hmirrors, ?_⟩
  rw [(readForest_counted 0 es hsilent).numbers, hmirrors.length_eq, List.range_eq_range']

/-- Every element of a description is accounted for: those that come to nothing have a problem
each, and where there is no problem the nodes mirror the plugin elements. -/
theorem readForest_accounted (root : Element) :
    (∃ accounts : List Account,
      accounts.map Account.element = root.children.filter (·.tag ≠ "default") ∧
      (∀ a ∈ Account.allIn accounts, a.Right params) ∧
      accounts.filterMap Account.property? = [] ∧
      accounts.filterMap Account.child? =
        (readForest params 0 root.children).value.map .nested ∧
      (readForest params 0 root.children).problems =
        (Account.allIn accounts).flatMap Account.own ∧
      (Account.drops accounts).length ≤ (readForest params 0 root.children).problems.length) ∧
    (∀ n ∈ SceneGraph.preorder (readForest params 0 root.children).value,
      (n.properties.map (·.name)).Nodup) ∧
    ((SceneGraph.preorder (readForest params 0 root.children).value).map (·.index)).Pairwise
      (· < ·) ∧
    ((readForest params 0 root.children).problems = [] →
      MirrorsForest params root.children (readForest params 0 root.children).value) := by
  obtain ⟨accounts, h⟩ := @readForest_explained params root.children 0 Body.empty
  have hproblems : (readForest params 0 root.children).problems =
      (Account.allIn accounts).flatMap Account.own := h.problems
  refine ⟨⟨accounts, h.elements, h.right, h.properties.symm, h.children.symm, hproblems, ?_⟩,
    fun n hn => ?_, (readForest_follows params 0 root.children).numbered.increasing,
    readForest_mirrorsForest⟩
  · rw [hproblems]
    exact Account.length_drops_le params h.right
  · obtain ⟨e, inner, -, -, hholds, -⟩ := readForest_node hn
    exact hholds.distinct

/-- A description with a parameter, a reference and a nested node. -/
def mirroredCube : String :=
  "<scene version=\"2.1.0\"><default name=\"k\" value=\"conductor\"/><bsdf type=\"$k\" id=\"m\"/>" ++
    "<shape type=\"cube\"><boolean name=\"flip_normals\" value=\"true\"/><ref id=\"m\"/>" ++
    "<emitter type=\"area\"/></shape></scene>"

theorem readForest_accounted_mirroredCube :
    ∃ root, Markup.read mirroredCube = .ok root ∧
      (readForest (Parameter.Table.ofRoot root).1 0 root.children).problems = [] ∧
      MirrorsForest (Parameter.Table.ofRoot root).1 root.children
        (readForest (Parameter.Table.ofRoot root).1 0 root.children).value := by
  have hread : (Markup.read mirroredCube).toOption.any (fun root =>
      (readForest (Parameter.Table.ofRoot root).1 0 root.children).problems.isEmpty) = true := by
    decide +kernel
  obtain ⟨root, hroot, hempty⟩ := exists_of_any hread
  have hsilent := List.isEmpty_iff.mp hempty
  exact ⟨root, hroot, hsilent, (readForest_accounted root).2.2.2 hsilent⟩

end Node

end SceneGraph
