import SceneGraph.Proofs.Numbering
import SceneGraph.Proofs.ReadingFaults
import SceneGraph.Proofs.Silence

/-!
# What becomes of every element

An account says what an element became when it was read: a node, a property, a reference, or
nothing, and in the last case what was reported instead.  Every element that is looked at has one
account, the content of a node is what the accounts of its children say, in their order, and the
problems of reading are those of the elements that came to nothing (`readForest_explained`).

    one child of a node                    readEntry_explained
    a node, and the children of a node     read_explained, readChildren_explained
    a description                          readForest_explained

What is reported of a description and what its nodes are made of follows from the accounts
(`readForest_faults`, `readForest_node`).
-/

namespace SceneGraph

open Markup

/-- What became of an element. -/
inductive Account where
  /-- Nothing, for these problems.  A property without a value is remembered by its name. -/
  | dropped (e : Element) (unread : Option String) (problems : List Problem)
  | property (e : Element) (p : Property)
  | reference (e : Element) (r : Reference)
  | node (e : Element) (n : Node) (inner : List Account)

namespace Account

def element : Account → Element
  | dropped e _ _ => e
  | property e _ => e
  | reference e _ => e
  | node e _ _ => e

def property? : Account → Option Property
  | property _ p => some p
  | _ => none

def child? : Account → Option Child
  | reference _ r => some (.reference r)
  | node _ n _ => some (.nested n)
  | _ => none

def unread? : Account → Option String
  | dropped _ unread _ => unread
  | _ => none

def isDropped : Account → Bool
  | dropped _ _ _ => true
  | _ => false

/-- The element that became a node, with the node. -/
def node? : Account → Option (Element × Node)
  | node e n _ => some (e, n)
  | _ => none

/-- The problems of the element itself. -/
def own : Account → List Problem
  | dropped _ _ problems => problems
  | _ => []

mutual

/-- An account in front of those of all elements that are looked at in its element. -/
def all : Account → List Account
  | dropped e unread problems => [dropped e unread problems]
  | property e p => [property e p]
  | reference e r => [reference e r]
  | node e n inner => node e n inner :: allIn inner

def allIn : List Account → List Account
  | [] => []
  | a :: as => a.all ++ allIn as

end

/-- All that came to nothing. -/
def drops (as : List Account) : List Account := (allIn as).filter isDropped

end Account

variable (params : Parameter.Table)

/-- The element writes a value for a property called `name`. -/
def Markup.Element.Writes (e : Element) (name : String) (v : Value) : Prop :=
  (e.tag = "transform" ∧
    ∃ ops, Transform.readAll params e = .of ops ∧ v = .transform (Geometry.compose ops)) ∨
  ∃ kind, LiteralKind.ofTag? e.tag = some kind ∧ Node.readLiteral params kind name e = .of v

structure Property.Of (e : Element) (p : Property) : Prop where
  name : Attribute.value? params e "name" = .of (some p.name)
  value : e.Writes params p.name p.value
  location : p.location = e.location

structure Reference.Of (e : Element) (r : Reference) : Prop where
  tag : e.tag = "ref"
  id : Attribute.value? params e "id" = .of (some r.id)
  name : Attribute.value? params e "name" = .of r.name
  location : r.location = e.location

/-- A node apart from its content. -/
structure Node.Of (e : Element) (n : Node) : Prop where
  kind : NodeKind.ofTag? e.tag = some n.kind
  type : Attribute.value? params e "type" = .of (some n.type)
  id : Attribute.value? params e "id" = .of n.id
  name : Attribute.value? params e "name" = .of n.name
  location : n.location = e.location

def Child.Of (e : Element) : Child → Prop
  | .nested n => n.Of params e
  | .reference r => r.Of params e

/-- The content of a node is made of what the children of its element became. -/
structure Node.Holds (n : Node) (es : List Element) (inner : List Account) : Prop where
  elements : inner.map Account.element = es
  properties : n.properties = inner.filterMap Account.property?
  children : n.children = inner.filterMap Account.child?
  invalid : n.invalid = inner.filterMap Account.unread?
  distinct : (n.properties.map (·.name)).Nodup

/-- What an element is said to have become is made of it, and what came to nothing has a problem
of its own, of the element or one in it. -/
def Account.Right : Account → Prop
  | dropped e unread problems =>
    (∀ name, unread = some name → Attribute.value? params e "name" = .of (some name)) ∧
      problems ≠ [] ∧ ∀ p ∈ problems, FaultOf e.preorder p
  | property e p => p.Of params e
  | reference e r => r.Of params e
  | node e n inner => n.Of params e ∧ n.Holds e.children inner

namespace Node

/-- Reading the elements `es` leads from a content to the next, with some problems, as the
accounts say. -/
structure Body.Explained (es : List Element) (b : Body) (r : Body × List Problem)
    (as : List Account) : Prop where
  elements : as.map Account.element = es
  right : ∀ a ∈ Account.allIn as, a.Right params
  properties : r.1.properties = b.properties ++ as.filterMap Account.property?
  children : r.1.children = b.children ++ as.filterMap Account.child?
  invalid : r.1.invalid = b.invalid ++ as.filterMap Account.unread?
  distinct : (b.properties.map (·.name)).Nodup → (r.1.properties.map (·.name)).Nodup
  problems : r.2 = (Account.allIn as).flatMap Account.own

end Node

/-! ## Lemmas -/

theorem Account.allIn_append (as bs : List Account) :
    allIn (as ++ bs) = allIn as ++ allIn bs := by
  induction as with
  | nil => rfl
  | cons a as ih => rw [List.cons_append, allIn, allIn, ih, List.append_assoc]

theorem filterMap_cons_toList {α β : Type} (f : α → Option β) (a : α) (as : List α) :
    (a :: as).filterMap f = (f a).toList ++ as.filterMap f := by
  rw [List.filterMap_eq_flatMap_toList, List.flatMap_cons, ← List.filterMap_eq_flatMap_toList]

theorem Account.allIn_singleton (a : Account) : allIn [a] = a.all := List.append_nil _

/-- Every element that came to nothing has a problem of its own, so there are at least as many
problems. -/
theorem Account.length_drops_le {as : List Account} (h : ∀ a ∈ allIn as, a.Right params) :
    (drops as).length ≤ ((allIn as).flatMap own).length := by
  unfold drops
  generalize allIn as = bs at h
  induction bs with
  | nil => exact Nat.le_refl _
  | cons b bs ih =>
    obtain ⟨hb, hbs⟩ := List.forall_mem_cons.mp h
    rw [List.flatMap_cons, List.length_append, List.filter_cons]
    have hrest := ih hbs
    cases b with
    | dropped e unread problems =>
      have hpos : 0 < problems.length := List.length_pos_iff.mpr hb.2.1
      simp only [isDropped, if_true, List.length_cons, own]
      omega
    | _ => exact Nat.le_trans hrest (Nat.le_add_left _ _)

variable {params}

namespace Account

/-! ## Trees of accounts -/

mutual

theorem all_subset : ∀ a : Account, ∀ x ∈ a.all, x.all ⊆ a.all
  | dropped _ _ _, x, hx | property _ _, x, hx | reference _ _, x, hx => by
    rw [List.mem_singleton.mp hx]
    exact List.Subset.refl _
  | node e n inner, x, hx => by
    rcases List.mem_cons.mp hx with rfl | hx
    · exact List.Subset.refl _
    · exact List.Subset.trans (allIn_subset inner x hx) (List.subset_cons_self _ _)

theorem allIn_subset : ∀ as : List Account, ∀ x ∈ allIn as, x.all ⊆ allIn as
  | a :: as, x, hx => by
    rcases List.mem_append.mp hx with hx | hx
    · exact List.Subset.trans (all_subset a x hx) (List.subset_append_left _ _)
    · exact List.Subset.trans (allIn_subset as x hx) (List.subset_append_right _ _)

end

theorem subset_allIn (as : List Account) : as ⊆ allIn as := by
  induction as with
  | nil => exact List.Subset.refl _
  | cons a as ih =>
    have ha : a ∈ a.all := by cases a <;> exact List.mem_cons_self
    exact List.cons_subset.mpr ⟨List.mem_append_left _ ha,
      List.Subset.trans ih (List.subset_append_right _ _)⟩

theorem inner_subset {as : List Account} {e : Element} {n : Node} {inner : List Account}
    (h : node e n inner ∈ allIn as) : inner ⊆ allIn as :=
  List.Subset.trans (subset_allIn inner)
    (List.Subset.trans (List.subset_cons_self _ _) (allIn_subset as _ h))

mutual

/-- The nodes of a content, in document order, are those that elements became. -/
theorem all_nodes : ∀ a : Account, (∀ x ∈ a.all, x.Right params) →
    (a.all.filterMap node?).map Prod.snd = Child.preorder a.child?.toList
  | dropped _ _ _, _ | property _ _, _ | reference _ _, _ => rfl
  | node e n inner, h => by
    obtain ⟨⟨-, hholds⟩, hinner⟩ := List.forall_mem_cons.mp h
    have hnodes := allIn_nodes inner hinner
    rw [← hholds.children] at hnodes
    simp [all, node?, child?, Child.preorder, Node.preorder_eq n, hnodes]

theorem allIn_nodes : ∀ as : List Account, (∀ x ∈ allIn as, x.Right params) →
    ((allIn as).filterMap node?).map Prod.snd = Child.preorder (as.filterMap child?)
  | [], _ => rfl
  | a :: as, h => by
    obtain ⟨ha, has⟩ := List.forall_mem_append.mp h
    rw [filterMap_cons_toList, Child.preorder_append, ← all_nodes a ha, ← allIn_nodes as has, allIn,
      List.filterMap_append, List.map_append]

end

/-- Every node comes from an account. -/
theorem exists_node {as : List Account} (h : ∀ x ∈ allIn as, x.Right params) {n : Node}
    (hn : n ∈ Child.preorder (as.filterMap child?)) :
    ∃ e inner, node e n inner ∈ allIn as := by
  rw [← allIn_nodes as h] at hn
  obtain ⟨⟨e, m⟩, hmem, rfl⟩ := List.mem_map.mp hn
  obtain ⟨a, ha, hnode⟩ := List.mem_filterMap.mp hmem
  cases a with
  | node e' m' inner =>
    obtain ⟨rfl, rfl⟩ := Prod.mk.inj (Option.some.inj hnode)
    exact ⟨e', inner, ha⟩
  | _ => cases hnode

mutual

/-- An account of what is in an element is about an element in it. -/
theorem all_elements_subset : ∀ a : Account, (∀ x ∈ a.all, x.Right params) →
    ∀ x ∈ a.all, x.element.preorder ⊆ a.element.preorder
  | dropped _ _ _, _, x, hx | property _ _, _, x, hx | reference _ _, _, x, hx => by
    rw [List.mem_singleton.mp hx]
    exact List.Subset.refl _
  | node ⟨tag, attributes, children, location⟩ n inner, h, x, hx => by
    obtain ⟨⟨-, hholds⟩, hinner⟩ := List.forall_mem_cons.mp h
    rcases List.mem_cons.mp hx with rfl | hx
    · exact List.Subset.refl _
    · have hsub := allIn_elements_subset inner hinner x hx
      rw [hholds.elements] at hsub
      exact List.Subset.trans hsub (List.subset_cons_self _ _)

theorem allIn_elements_subset : ∀ as : List Account, (∀ x ∈ allIn as, x.Right params) →
    ∀ x ∈ allIn as, x.element.preorder ⊆ Element.preorderAll (as.map element)
  | a :: as, h, x, hx => by
    obtain ⟨ha, has⟩ := List.forall_mem_append.mp h
    rcases List.mem_append.mp hx with hx | hx
    · exact List.Subset.trans (all_elements_subset a ha x hx) (List.subset_append_left _ _)
    · exact List.Subset.trans (allIn_elements_subset as has x hx) (List.subset_append_right _ _)

end

/-! ## One account -/

theorem property_of_right {a : Account} (h : a.Right params) {p : Property}
    (hp : a.property? = some p) : p.Of params a.element := by
  cases a with
  | property e q =>
    obtain rfl := Option.some.inj hp
    exact h
  | _ => cases hp

theorem child_of_right {a : Account} (h : a.Right params) {c : Child}
    (hc : a.child? = some c) : c.Of params a.element := by
  cases a with
  | reference e r =>
    obtain rfl := Option.some.inj hc
    exact h
  | node e n inner =>
    obtain rfl := Option.some.inj hc
    exact h.1
  | _ => cases hc

end Account

namespace Node.Body.Explained

variable {e : Element} {b : Body}

theorem nil (b : Body) : b.Explained params [] (b, []) [] where
  elements := rfl
  right := List.forall_mem_nil _
  properties := (List.append_nil _).symm
  children := (List.append_nil _).symm
  invalid := (List.append_nil _).symm
  distinct := fun hb => hb
  problems := rfl

theorem append {es fs : List Element} {b' b'' : Body} {ps qs : List Problem}
    {as bs : List Account} (h : b.Explained params es (b', ps) as)
    (h' : b'.Explained params fs (b'', qs) bs) :
    b.Explained params (es ++ fs) (b'', ps ++ qs) (as ++ bs) where
  elements := by rw [List.map_append, h.elements, h'.elements]
  right := by
    rw [Account.allIn_append]
    exact List.forall_mem_append.mpr ⟨h.right, h'.right⟩
  properties := by rw [h'.properties, h.properties, List.filterMap_append, List.append_assoc]
  children := by rw [h'.children, h.children, List.filterMap_append, List.append_assoc]
  invalid := by rw [h'.invalid, h.invalid, List.filterMap_append, List.append_assoc]
  distinct := fun hb => h'.distinct (h.distinct hb)
  problems := by
    rw [Account.allIn_append, List.flatMap_append, ← h.problems, ← h'.problems]

theorem dropped {problems : List Problem} (hne : problems ≠ [])
    (hfaults : ∀ p ∈ problems, FaultOf e.preorder p) :
    b.Explained params [e] (b, problems) [.dropped e none problems] where
  elements := rfl
  right := List.forall_mem_singleton.mpr ⟨fun _ h => (nomatch h), hne, hfaults⟩
  properties := (List.append_nil _).symm
  children := (List.append_nil _).symm
  invalid := (List.append_nil _).symm
  distinct := fun hb => hb
  problems := (List.append_nil _).symm

theorem unread {name : String} {problems : List Problem}
    (hname : Attribute.value? params e "name" = .of (some name)) (hne : problems ≠ [])
    (hfaults : ∀ p ∈ problems, FaultOf e.preorder p) :
    b.Explained params [e] (b.addInvalid name, problems)
      [.dropped e (some name) problems] where
  elements := rfl
  right := by
    refine List.forall_mem_singleton.mpr ⟨?_, hne, hfaults⟩
    rintro _ ⟨⟩
    exact hname
  properties := (List.append_nil _).symm
  children := (List.append_nil _).symm
  invalid := rfl
  distinct := fun hb => hb
  problems := (List.append_nil _).symm

/-- A property is added only under a new name. -/
theorem property {p : Property} (hp : p.Of params e) (hnew : b.knows p.name = false) :
    b.Explained params [e] ({ b with properties := b.properties ++ [p] }, [])
      [.property e p] where
  elements := rfl
  right := List.forall_mem_singleton.mpr hp
  properties := rfl
  children := (List.append_nil _).symm
  invalid := (List.append_nil _).symm
  distinct := by
    intro hb
    rw [List.map_append, List.map_singleton]
    refine List.nodup_append.mpr ⟨hb, List.nodup_singleton _, ?_⟩
    rintro name hname _ hmem rfl
    obtain ⟨q, hq, hqname⟩ := List.mem_map.mp hname
    have hknown : b.knows p.name = true := by
      rw [knows, Bool.or_eq_true, List.any_eq_true]
      exact .inl ⟨q, hq, decide_eq_true (hqname.trans (List.mem_singleton.mp hmem))⟩
    rw [hknown] at hnew
    cases hnew
  problems := rfl

theorem child {c : Child} {a : Account} (helement : a.element = e)
    (hright : ∀ x ∈ a.all, x.Right params) (hproperty : a.property? = none)
    (hchild : a.child? = some c) (hunread : a.unread? = none) :
    b.Explained params [e] (b.addChild c, a.all.flatMap Account.own) [a] where
  elements := by rw [List.map_singleton, helement]
  right := by rwa [Account.allIn_singleton]
  properties := by simp [hproperty, addChild]
  children := by simp [hchild, addChild]
  invalid := by simp [hunread, addChild]
  distinct := fun hb => hb
  problems := by rw [Account.allIn_singleton]

end Node.Body.Explained

namespace Node

open Checked (Settled)

variable {e : Element}

/-! ## One element -/

/-- A property is read from its name and its value, or there is something to report. -/
theorem readProperty_explained (parent : NodeKind) {read : String → Checked Value}
    (hread : ∀ name, Settled (FaultOf e.preorder) (read name))
    (hwrites : ∀ name v, read name = .of v → e.Writes params name v) (b : Body) :
    ∃ a, b.Explained params [e] (readProperty params parent e read b) [a] := by
  have hself : [e] ⊆ e.preorder := by simpa using e.self_mem_preorder
  have hname : Settled (FaultOf e.preorder)
      (Attribute.required params e "name" (.unnamedProperty e.tag parent)) :=
    (Attribute.faulty_required _ _).mono (FaultOf.mono hself)
  unfold readProperty
  dsimp only
  split
  · next hnone => exact ⟨_, .dropped (hname.ne_nil hnone) hname.only⟩
  · next name hsome =>
    have hstated := Attribute.value?_of_required (hname.eq_of hsome)
    have hsilent : (Attribute.required params e "name" (.unnamedProperty e.tag parent)).problems =
        [] := by rw [hname.eq_of hsome]; rfl
    rw [hsilent, List.nil_append]
    split
    · next hnone => exact ⟨_, .unread hstated ((hread name).ne_nil hnone) (hread name).only⟩
    · next v hv =>
      have hvalue := (hread name).eq_of hv
      have hquiet : (read name).problems = [] := by rw [hvalue]; rfl
      rw [hquiet, List.nil_append]
      unfold Body.addProperty
      split
      · refine ⟨_, .dropped (List.cons_ne_nil _ _) (List.forall_mem_singleton.mpr ?_)⟩
        exact ⟨e, e.self_mem_preorder, .malformed _⟩
      · next hnew =>
        exact ⟨_, .property ⟨hstated, hwrites name v hvalue, rfl⟩ (Bool.eq_false_iff.mpr hnew)⟩

theorem readReference_of {r : Reference} (htag : e.tag = "ref")
    (h : readReference params e = .of r) : r.Of params e := by
  have hsilent : (readReference params e).problems = [] := by rw [h]; rfl
  unfold readReference at h hsilent
  obtain ⟨id, hid, hsilent⟩ := Checked.silent_bind hsilent
  obtain ⟨name, hname, -⟩ := Checked.silent_bind hsilent
  rw [hid, hname] at h
  have hr : (⟨id, name, e.location⟩ : Reference) = r := Option.some.inj (congrArg Checked.value? h)
  subst hr
  exact ⟨htag, Attribute.value?_of_required hid, hname, rfl⟩

/-- A child that is no nested node becomes a reference or a property, or there is something to
report. -/
theorem readEntry_explained (parent : NodeKind) (e : Element) (b : Body) :
    ∃ a, b.Explained params [e] (readEntry params parent e b) [a] := by
  have hself : [e] ⊆ e.preorder := by simpa using e.self_mem_preorder
  unfold readEntry
  split
  · next htag =>
    have href : Settled (FaultOf e.preorder) (readReference params e) :=
      faulty_readReference.mono (FaultOf.mono hself)
    dsimp only
    split
    · next hnone => exact ⟨_, .dropped (href.ne_nil hnone) href.only⟩
    · next r hr =>
      have hvalue := href.eq_of hr
      have hquiet : (readReference params e).problems = [] := by rw [hvalue]; rfl
      rw [hquiet]
      exact ⟨_, .child (a := .reference e r) rfl
        (List.forall_mem_singleton.mpr (readReference_of htag hvalue)) rfl rfl rfl⟩
  split
  · next htag =>
    have hall : Settled (FaultOf e.preorder) (Transform.readAll params e) :=
      Transform.faulty_readAll.mono (FaultOf.mono e.children_subset_preorder)
    refine readProperty_explained parent (fun name => Checked.settled_bind _ _) ?_ b
    intro name v hv
    rcases hall.verdict with ⟨ops, hops⟩ | ⟨hnone, -⟩
    · rw [hops] at hv
      exact .inl ⟨htag, ops, hops, (Option.some.inj (congrArg Checked.value? hv)).symm⟩
    · have hvalue := congrArg Checked.value? hv
      rw [Checked.bind_eq, Checked.andThen, hnone] at hvalue
      cases hvalue
  split
  · next kind hkind =>
    exact readProperty_explained parent
      (fun name => (faulty_readLiteral kind name).mono (FaultOf.mono hself))
      (fun name v hv => .inr ⟨kind, hkind, hv⟩) b
  · refine ⟨_, .dropped (List.cons_ne_nil _ _) (List.forall_mem_singleton.mpr ?_)⟩
    exact ⟨e, e.self_mem_preorder, .unexpected _⟩

/-! ## Nodes -/

/-- A head that is read is that of the node. -/
theorem of_readHead {head : Head} {kind : NodeKind} (hkind : NodeKind.ofTag? e.tag = some kind)
    (h : readHead params e = .of head) (index : Nat) (b : Body) :
    (assemble index kind head e.location b).Of params e := by
  obtain ⟨htype, hid, hname⟩ := readHead_of h
  exact ⟨hkind, htype, hid, hname, rfl⟩

/-- The content with the node that an element became, if it became one. -/
def Body.addNode (b : Body) : Option Node → Body
  | some n => b.addChild (.nested n)
  | none => b

mutual

theorem read_explained : ∀ (e : Element) (kind : NodeKind) (index : Nat) (b : Body),
    NodeKind.ofTag? e.tag = some kind → ∃ a, b.Explained params [e]
      (b.addNode (read params kind index e).value, (read params kind index e).problems) [a]
  | ⟨tag, attributes, children, location⟩, kind, index, b, hkind => by
    have hhead : Settled (FaultOf (Element.preorder ⟨tag, attributes, children, location⟩))
        (readHead params ⟨tag, attributes, children, location⟩) :=
      faulty_readHead.mono (FaultOf.mono (by simp [Element.preorder]))
    rw [read]
    dsimp only
    split
    · next hnone => exact ⟨_, .dropped (hhead.ne_nil hnone) hhead.only⟩
    · next head hsome =>
      have hvalue := hhead.eq_of hsome
      have hquiet : (readHead params ⟨tag, attributes, children, location⟩).problems = [] := by
        rw [hvalue]
        rfl
      obtain ⟨inner, hinner⟩ := readChildren_explained children kind (index + 1) Body.empty
      have hproblems : (readChildren params kind (index + 1) Body.empty children).problems =
          (Account.allIn inner).flatMap Account.own := hinner.problems
      rw [hquiet, List.nil_append, hproblems]
      refine ⟨_, .child (a := .node _ _ inner) rfl ?_ rfl rfl rfl⟩
      refine List.forall_mem_cons.mpr ⟨⟨of_readHead hkind hvalue _ _, ?_⟩, hinner.right⟩
      exact ⟨hinner.elements, hinner.properties, hinner.children, hinner.invalid,
        hinner.distinct List.nodup_nil⟩

theorem readChildren_explained : ∀ (es : List Element) (parent : NodeKind) (next : Nat) (b : Body),
    ∃ as, b.Explained params es ((readChildren params parent next b es).value,
      (readChildren params parent next b es).problems) as
  | [], _, _, b => ⟨[], .nil b⟩
  | e :: es, parent, next, b => by
    rw [readChildren]
    split
    · next kind hkind =>
      obtain ⟨a, ha⟩ := read_explained e kind next b hkind
      obtain ⟨as, has⟩ := readChildren_explained es parent (read params kind next e).next
        (b.addNode (read params kind next e).value)
      exact ⟨a :: as, ha.append has⟩
    · obtain ⟨a, ha⟩ := readEntry_explained parent e b
      obtain ⟨as, has⟩ := readChildren_explained es parent next (readEntry params parent e b).1
      exact ⟨a :: as, ha.append has⟩

end

/-- A content with the nodes of a forest behind its children. -/
def Body.addForest (b : Body) (forest : List Node) : Body :=
  { b with children := b.children ++ forest.map .nested }

theorem Body.addForest_cons (b : Body) (n : Option Node) (forest : List Node) :
    b.addForest (n.toList ++ forest) = (b.addNode n).addForest forest := by
  cases n with
  | none => rfl
  | some n => simp [addForest, addNode, addChild]

/-- A description is read like the content of a node, except that its defaults are left out and
that it has no properties and references. -/
theorem readForest_explained (es : List Element) : ∀ (next : Nat) (b : Body),
    ∃ as, b.Explained params (es.filter (·.tag ≠ "default"))
      (b.addForest (readForest params next es).value, (readForest params next es).problems) as := by
  induction es with
  | nil =>
    intro next b
    have hnil : b.addForest [] = b := by simp [Body.addForest]
    rw [readForest, hnil]
    exact ⟨[], .nil b⟩
  | cons e es ih =>
    intro next b
    by_cases hdefault : e.tag = "default"
    · rw [readForest, if_pos hdefault, List.filter_cons_of_neg (by simpa using hdefault)]
      exact ih next b
    rw [readForest, if_neg hdefault, List.filter_cons_of_pos (by simpa using hdefault)]
    split
    · next kind hkind =>
      obtain ⟨a, ha⟩ := read_explained e kind next b hkind
      obtain ⟨as, has⟩ := ih (read params kind next e).next
        (b.addNode (read params kind next e).value)
      rw [Body.addForest_cons]
      exact ⟨a :: as, ha.append has⟩
    · have hfault : ∀ p ∈ [Problem.unexpectedElement e.tag e.location], FaultOf e.preorder p :=
        List.forall_mem_singleton.mpr ⟨e, e.self_mem_preorder, .unexpected _⟩
      obtain ⟨as, has⟩ := ih next b
      exact ⟨_ :: as, (Body.Explained.dropped (List.cons_ne_nil _ _) hfault).append has⟩

/-! ## What is read of a description -/

/-- What is reported is a fault of an element. -/
theorem readForest_faults (es : List Element) (next : Nat) :
    ∀ p ∈ (readForest params next es).problems, FaultOf (Element.preorderAll es) p := by
  obtain ⟨accounts, h⟩ := @readForest_explained params es next Body.empty
  have hproblems : (readForest params next es).problems =
      (Account.allIn accounts).flatMap Account.own := h.problems
  intro p hp
  rw [hproblems] at hp
  obtain ⟨a, ha, hp⟩ := List.mem_flatMap.mp hp
  have hsub := Account.allIn_elements_subset accounts h.right a ha
  rw [h.elements] at hsub
  cases a with
  | dropped e unread problems =>
    refine ((h.right _ ha).2.2 p hp).mono (List.Subset.trans hsub ?_)
    exact Element.preorderAll_mono List.filter_sublist.subset
  | _ => cases hp

/-- A node of the forest is made of an element and of the elements in it. -/
theorem readForest_node {es : List Element} {next : Nat} {n : Node}
    (hn : n ∈ SceneGraph.preorder (readForest params next es).value) :
    ∃ e inner, e.preorder ⊆ Element.preorderAll es ∧ n.Of params e ∧ n.Holds e.children inner ∧
      ∀ a ∈ inner, a.Right params := by
  obtain ⟨accounts, h⟩ := @readForest_explained params es next Body.empty
  have hchildren : (readForest params next es).value.map .nested =
      accounts.filterMap Account.child? := h.children
  rw [← Child.preorder_map_nested, hchildren] at hn
  obtain ⟨e, inner, hmem⟩ := Account.exists_node h.right hn
  obtain ⟨hof, hholds⟩ := h.right _ hmem
  have hsub := Account.allIn_elements_subset accounts h.right _ hmem
  rw [h.elements] at hsub
  exact ⟨e, inner, List.Subset.trans hsub (Element.preorderAll_mono List.filter_sublist.subset), hof,
    hholds, fun a ha => h.right a (Account.inner_subset hmem ha)⟩

end Node

end SceneGraph
