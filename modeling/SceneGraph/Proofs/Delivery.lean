import SceneGraph.Proofs.Slots

/-!
# Plugins deliver

A plugin makes something of every node whose children were built, unless it reports why not, and
what it makes is of the kind of the node and carries the node's id (`delivers_of_find?`).  In
the arena it takes a new place if it is a bsdf or a volume, and no place otherwise
(`store_records`).
-/

namespace SceneGraph

/-- An object of the kind of a node, with a reference to the node or its id if it keeps one. -/
def Object.Of (node : NodeRef) : Object → Prop
  | .integrator i => node.kind = .integrator ∧ i.id = node.id
  | .sensor d => node.kind = .sensor ∧ d.node = node
  | .sampler d => node.kind = .sampler ∧ d.node = node
  | .film d => node.kind = .film ∧ d.node = node
  | .filter _ => node.kind = .filter
  | .bsdf _ => node.kind = .bsdf
  | .emitter e => node.kind = .emitter ∧ e.id = node.id
  | .shape d => node.kind = .shape ∧ d.node = node
  | .volume _ => node.kind = .volume

/-- What is made for a node.  A bsdf or volume is new. -/
def Product.Of (node : NodeRef) : Product → Prop
  | .object o => o.slot? = none ∧ o.Of node
  | .bsdf _ => node.kind = .bsdf
  | .volume _ => node.kind = .volume

/-- Without a failed child and without a report, a plugin makes something for its node. -/
def Plugin.Delivers (p : Plugin) : Prop :=
  ∀ (children : Attached) (s : Settings), s.node.kind = p.kind → children.failed = [] →
    (p.build children s).2.problems = [] →
    ∃ product, (p.build children s).1 = some product ∧ product.Of s.node

/-- From an arena to one with the bsdfs and volumes of some nodes behind. -/
structure Arena.Records (a : Arena) (nodes : List Node) (b : Arena) : Prop where
  bsdfs : b.bsdfs.map (·.id) = a.bsdfs.map (·.id) ++ (nodes.filter (·.kind = .bsdf)).map (·.id)
  volumes : b.volumes.map (·.id) =
    a.volumes.map (·.id) ++ (nodes.filter (·.kind = .volume)).map (·.id)

/-! ## Lemmas -/

theorem Object.Of.kind_eq {node : NodeRef} {o : Object} (h : o.Of node) : o.kind = node.kind := by
  cases o with
  | filter f => exact h.symm
  | bsdf b => exact h.symm
  | volume v => exact h.symm
  | _ => exact h.1.symm

/-- Two additions, of the nodes of a kind, are one. -/
theorem append_of_kind {α : Type} {xs ys zs : List α} {ms ns : List Node} {k : NodeKind}
    {f : Node → α} (h : ys = xs ++ (ms.filter (·.kind = k)).map f)
    (h' : zs = ys ++ (ns.filter (·.kind = k)).map f) :
    zs = xs ++ ((ms ++ ns).filter (·.kind = k)).map f := by
  rw [h', h, List.filter_append, List.map_append, List.append_assoc]

namespace Arena

theorem Records.refl (a : Arena) : a.Records [] a := ⟨by simp, by simp⟩

theorem Records.append {a b c : Arena} {ms ns : List Node} (h : a.Records ms b)
    (h' : b.Records ns c) : a.Records (ms ++ ns) c where
  bsdfs := append_of_kind h.bsdfs h'.bsdfs
  volumes := append_of_kind h.volumes h'.volumes

/-- A product is recorded for its node, and its object is one of the node. -/
theorem store_records (a : Arena) (n : Node) {p : Product} (h : p.Of n.ref) :
    (a.store n.id p).1.Of n.ref ∧ a.Records [n] (a.store n.id p).2 := by
  cases p with
  | object o =>
    obtain ⟨hslot, ho⟩ := h
    have hbsdf : n.kind ≠ .bsdf := by
      intro hkind
      have hk : o.kind = .bsdf := ho.kind_eq.trans hkind
      cases o <;> cases hk
      cases hslot
    have hvolume : n.kind ≠ .volume := by
      intro hkind
      have hk : o.kind = .volume := ho.kind_eq.trans hkind
      cases o <;> cases hk
      cases hslot
    exact ⟨ho, by simp [store, hbsdf], by simp [store, hvolume]⟩
  | bsdf b =>
    have hkind : n.kind = .bsdf := h
    exact ⟨h, by simp [store, hkind], by simp [store, hkind]⟩
  | volume v =>
    have hkind : n.kind = .volume := h
    exact ⟨h, by simp [store, hkind], by simp [store, hkind]⟩

end Arena

/-! ## Plugins -/

namespace Plugin

open Inspect

theorem delivers_viewPlugins : ∀ p ∈ viewPlugins, Delivers p := by
  simp only [viewPlugins, List.forall_mem_cons]
  refine ⟨?_, ?_, ?_, ?_, ?_, ?_, ?_, ?_, ?_, ?_, ?_, ?_, ?_, by simp⟩
  rotate_right 3
  · exact fun children s hkind _ _ => ⟨_, rfl, rfl, hkind⟩
  · exact fun children s hkind _ _ => ⟨_, rfl, rfl, hkind⟩
  · exact fun children s hkind _ _ => ⟨_, rfl, rfl, hkind⟩
  all_goals exact fun children s hkind _ _ => ⟨_, rfl, rfl, hkind, rfl⟩

/-- Without failed children, a two-sided bsdf is missing only where the number of sides is
reported. -/
theorem delivers_twoSidedPlugin : Delivers twoSidedPlugin := by
  intro children s hkind hfailed hproblems
  have hcount : children.failedCount .bsdf = 0 := by
    rw [Attached.failedCount, hfailed]
    rfl
  unfold twoSidedPlugin at hkind hproblems ⊢
  dsimp only at hkind hproblems ⊢
  rw [hcount] at hproblems ⊢
  match hsides : children.bsdfs with
  | [front] => exact ⟨_, rfl, hkind⟩
  | [front, back] => exact ⟨_, rfl, hkind⟩
  | [] =>
    rw [hsides] at hproblems
    cases (List.append_eq_nil_iff.mp hproblems).1
  | front :: back :: third :: more =>
    rw [hsides] at hproblems
    cases (List.append_eq_nil_iff.mp hproblems).1

theorem delivers_materialPlugins : ∀ p ∈ materialPlugins, Delivers p := by
  simp only [materialPlugins, List.forall_mem_cons]
  refine ⟨?_, delivers_twoSidedPlugin, ?_, ?_, ?_, ?_, ?_, by simp⟩
  all_goals exact fun children s hkind _ _ => ⟨_, rfl, hkind⟩

theorem delivers_bodyPlugins : ∀ p ∈ bodyPlugins, Delivers p := by
  simp only [bodyPlugins, List.forall_mem_cons]
  refine ⟨?_, ?_, ?_, ?_, ?_, ?_, ?_, ?_, ?_, ?_, ?_, by simp⟩
  all_goals exact fun children s hkind _ _ => ⟨_, rfl, rfl, hkind, rfl⟩

/-- Every plugin delivers. -/
theorem delivers_of_find? {kind : NodeKind} {type : String} {p : Plugin}
    (h : find? kind type = some p) : Delivers p :=
  forall_of_find? delivers_viewPlugins delivers_materialPlugins delivers_bodyPlugins h

end Plugin

end SceneGraph
