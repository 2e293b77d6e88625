import SceneGraph.Proofs.Recall

/-!
# Building a value again

A sampler, film or filter without ids in it can be built again wherever everything is known that
was known when it was built first.  The object is the same but for ids, no place in the arena is
taken, and nothing becomes known by it (`build_again`).  Its numbers do not matter either
(`build_unnumbered`).

`conclude_alike` is the step of one node: with children that are equal but for ids, what passed
before passes again.
-/

namespace SceneGraph

mutual

/-- The node with all numbers left out. -/
def Node.unnumbered : Node → Node
  | ⟨_, kind, type, id, name, location, properties, children, invalid⟩ =>
    ⟨0, kind, type, id, name, location, properties, Child.unnumbered children, invalid⟩

def Child.unnumbered : List Child → List Child
  | [] => []
  | .nested n :: cs => .nested n.unnumbered :: Child.unnumbered cs
  | .reference r :: cs => .reference r :: Child.unnumbered cs

end

/-- None of the nodes has an id. -/
def Unnamed (nodes : List Node) : Prop := ∀ n ∈ nodes, n.id = none

theorem Unnamed.children {n : Node} (h : Unnamed n.postorder) :
    Unnamed (Child.postorder n.children) := by
  intro m hm
  apply h m
  rw [Node.postorder_eq]
  exact List.mem_append_left _ hm

theorem anonymous_of_unnamed {n : Node} (h : Unnamed n.postorder) : n.anonymous = n := by
  have hid : n.id = none := by
    apply h n
    rw [Node.postorder_eq]
    exact List.mem_append_right _ (List.mem_singleton_self n)
  cases n
  rw [Node.anonymous, ← hid]

namespace Instantiation

open Finding (Passes passes_append)

/-- What is known in `q` is known in `r`, but for ids of values. -/
def Recalls (r q : Registry Object) : Prop :=
  ∀ id o, q.value? id = some o → ∃ o', r.value? id = some o' ∧ o.anonymous = o'.anonymous

/-! ## The end of a node -/

/-- A node that passes with all children there has a product. -/
theorem conclude_passes {strict : Bool} {n : Node} {g : Gathered} {s : State}
    (haborted : g.aborted = false) (hfailed : g.attached.failed = [])
    (h : Passes strict (conclude n g s).2.findings) :
    ∃ p product, Plugin.find? n.kind n.type = some p ∧
      (inspect p n g.attached).1 = some product ∧ Passes strict (inspect p n g.attached).2 ∧
      (conclude n g s).1 = .built (s.arena.store n.id product).1 ∧
      (conclude n g s).2.arena = (s.arena.store n.id product).2 := by
  have hconclude : conclude n g s = finish n g.attached s := by
    rw [conclude, haborted]
    rfl
  obtain ⟨o, hbuilt, -⟩ := conclude_silent haborted hfailed h.silent
  rw [hconclude] at h hbuilt ⊢
  obtain ⟨-, hfinish⟩ | ⟨p, fs, -, -, hfinish⟩ | ⟨p, product, fs, hp, hi, hfinish⟩ :=
    finish_cases n g.attached s
  · rw [hfinish] at hbuilt
    cases hbuilt
  · rw [hfinish] at hbuilt
    cases hbuilt
  · rw [hfinish] at h
    have hpasses : Passes strict (inspect p n g.attached).2 := by
      rw [hi]
      exact (passes_append.mp h).2
    rw [hfinish, hfailed]
    exact ⟨p, product, hp, congrArg Prod.fst hi, hpasses, rfl, rfl⟩

/-- A node with all children there ends with the product that is made for it. -/
theorem conclude_of_inspect {strict : Bool} {n : Node} {g : Gathered} {s : State} {p : Plugin}
    {product : Product} (haborted : g.aborted = false) (hfailed : g.attached.failed = [])
    (hp : Plugin.find? n.kind n.type = some p)
    (hproduct : (inspect p n g.attached).1 = some product)
    (hpasses : Passes strict (inspect p n g.attached).2) (hs : Passes strict s.findings) :
    (conclude n g s).1 = .built (s.arena.store n.id product).1 ∧
      (conclude n g s).2.arena = (s.arena.store n.id product).2 ∧
      Passes strict (conclude n g s).2.findings := by
  have hinspect : inspect p n g.attached = (some product, (inspect p n g.attached).2) :=
    Prod.ext hproduct rfl
  have hconclude : conclude n g s = (.built (s.arena.store n.id product).1,
      { s.add (inspect p n g.attached).2 with arena := (s.arena.store n.id product).2 }) := by
    rw [conclude, haborted, finish, hp]
    dsimp only
    rw [hinspect, hfailed]
    rfl
  rw [hconclude]
  exact ⟨rfl, rfl, passes_append.mpr ⟨hs, hpasses⟩⟩

/-- A node that passes also passes with children that are equal but for ids. -/
theorem conclude_alike {strict : Bool} {n : Node} {g g' : Gathered} {s t : State}
    (hg : g.attached.Alike g'.attached) (haborted : g.aborted = false)
    (haborted' : g'.aborted = false) (hfailed : g.attached.failed = [])
    (h : Passes strict (conclude n g s).2.findings) (ht : Passes strict t.findings) :
    ∃ product product', product.anonymous = product'.anonymous ∧
      ((conclude n g s).1 = .built (s.arena.store n.id product).1 ∧
        (conclude n g s).2.arena = (s.arena.store n.id product).2) ∧
      (conclude n g' t).1 = .built (t.arena.store n.id product').1 ∧
        (conclude n g' t).2.arena = (t.arena.store n.id product').2 ∧
        Passes strict (conclude n g' t).2.findings := by
  obtain ⟨p, product, hp, hproduct, hinspect, hconclude⟩ := conclude_passes haborted hfailed h
  obtain ⟨hpasses, hproducts⟩ := inspect_alike hp hg hinspect
  rw [hproduct, Option.map_some] at hproducts
  obtain ⟨product', hproduct', halike⟩ := Option.map_eq_some_iff.mp hproducts.symm
  exact ⟨product, product', halike.symm, hconclude,
    conclude_of_inspect haborted' (hg.failed ▸ hfailed) hp hproduct' hpasses ht⟩

/-- A value that passes also passes without its id. -/
theorem conclude_anonymous {strict : Bool} {n : Node} (hkind : n.kind.isValue = true)
    {g g' : Gathered} {s t : State} (hg : g.attached.Alike g'.attached)
    (haborted : g.aborted = false) (haborted' : g'.aborted = false)
    (hfailed : g.attached.failed = []) (h : Passes strict (conclude n g s).2.findings)
    (ht : Passes strict t.findings) :
    ∃ o o', o.anonymous = o'.anonymous ∧ (conclude n g s).1 = .built o ∧
      (conclude n.anonymous g' t).1 = .built o' ∧ (conclude n.anonymous g' t).2.arena = t.arena ∧
      Passes strict (conclude n.anonymous g' t).2.findings := by
  obtain ⟨p, product, hp, hproduct, hinspect, hbuilt, -⟩ := conclude_passes haborted hfailed h
  -- first the children change, and then the id goes
  obtain ⟨hpasses, hproducts⟩ := inspect_alike hp hg hinspect
  obtain ⟨hpasses', ⟨o₁, o', ho₁, ho', hobject⟩, -⟩ := inspect_anonymous hp hkind hpasses
  obtain ⟨hbuilt', harena', hpassed'⟩ := conclude_of_inspect (n := n.anonymous) (s := t) haborted'
    (hg.failed ▸ hfailed) hp ho' hpasses' ht
  rw [hproduct, ho₁, Option.map_some, Option.map_some] at hproducts
  cases product with
  | object o =>
    have ho : o.anonymous = o₁.anonymous := Product.object.inj (Option.some.inj hproducts)
    exact ⟨o, o', ho.trans hobject, hbuilt, hbuilt', harena', hpassed'⟩
  | bsdf b => cases Option.some.inj hproducts
  | volume v => cases Option.some.inj hproducts

/-- The children of a value that passes are filters. -/
theorem children_of_value {strict : Bool} {n : Node} (hkind : n.kind.isValue = true)
    {g : Gathered} {s : State} (haborted : g.aborted = false) (hfailed : g.attached.failed = [])
    (h : Passes strict (conclude n g s).2.findings) :
    ∀ k ∈ g.attached.items.map (·.object.kind), k = .filter := by
  obtain ⟨p, product, hp, -, hinspect, -⟩ := conclude_passes haborted hfailed h
  exact (inspect_anonymous hp hkind hinspect).2.2

/-! ## Nodes without ids -/

mutual

/-- Nothing becomes known by nodes without ids. -/
theorem build_unnamed (s : State) : ∀ n, Unnamed n.postorder → (build s n).2.registry = s.registry
  | ⟨index, kind, type, id, name, location, properties, children, invalid⟩, h => by
    by_cases hdup : s.registry.isDuplicate index = true
    · rw [build_of_duplicate hdup]
    · rw [Node.postorder_eq] at h
      obtain rfl : id = none := h _ (List.mem_append_right _ (List.mem_singleton_self _))
      rw [build_state_of_first (Bool.eq_false_iff.mpr hdup), publish_registry_none,
        conclude_registry]
      exact buildChildren_unnamed s children fun m hm => h m (List.mem_append_left _ hm)

theorem buildChildren_unnamed (s : State) : ∀ cs, Unnamed (Child.postorder cs) →
    (buildChildren s cs).2.registry = s.registry
  | [], _ => rfl
  | .nested n :: cs, h => by
    rw [Child.postorder] at h
    rw [buildChildren_nested,
      buildChildren_unnamed _ cs fun m hm => h m (List.mem_append_right _ hm),
      build_unnamed s n fun m hm => h m (List.mem_append_left _ hm)]
  | .reference r :: cs, h => by
    rw [buildChildren_reference]
    simp only [buildChildren_unnamed _ cs h, lookedUp_registry]

end

mutual

/-- Without duplicates, the numbers of nodes without ids do not matter. -/
theorem build_unnumbered {s : State} (hs : s.registry.duplicates = []) :
    ∀ n, Unnamed n.postorder → build s n.unnumbered = build s n
  | ⟨index, kind, type, id, name, location, properties, children, invalid⟩, h => by
    have hfirst : ∀ i, s.registry.isDuplicate i = false := fun i => by
      rw [Registry.isDuplicate, hs]
      rfl
    rw [Node.postorder_eq] at h
    obtain rfl : id = none := h _ (List.mem_append_right _ (List.mem_singleton_self _))
    have hchildren := buildChildren_unnumbered hs children fun m hm =>
      h m (List.mem_append_left _ hm)
    rw [Node.unnumbered, build_of_first (hfirst _), build_of_first (hfirst _)]
    simp only [hchildren]
    rfl

theorem buildChildren_unnumbered {s : State} (hs : s.registry.duplicates = []) :
    ∀ cs, Unnamed (Child.postorder cs) →
      buildChildren s (Child.unnumbered cs) = buildChildren s cs
  | [], _ => rfl
  | .nested n :: cs, h => by
    rw [Child.postorder] at h
    have hn := build_unnumbered hs n fun m hm => h m (List.mem_append_left _ hm)
    have hcs := buildChildren_unnumbered ((build_duplicates s n).trans hs) cs fun m hm =>
      h m (List.mem_append_right _ hm)
    rw [Child.unnumbered, buildChildren_nested, buildChildren_nested, hn, hcs]
    cases n
    rfl
  | .reference r :: cs, h => by
    have hcs := buildChildren_unnumbered
      (s := s.lookedUp (s.registry.resolve r.id r.location)) (by rw [lookedUp_registry, hs]) cs h
    rw [Child.unnumbered, buildChildren_reference, buildChildren_reference]
    simp only [hcs]

end

/-! ## Building again -/

mutual

/-- A value that was built without a problem is built again where as much is known. -/
theorem build_again {strict : Bool} {s t : State} (hs : Clean s) (ht : Clean t)
    (hrecalls : Recalls t.registry s.registry) (hpasses : Passes strict t.findings) :
    ∀ n, n.kind.isValue = true → Unnamed (Child.postorder n.children) →
      Passes strict (build s n).2.findings →
      ∃ o o', o.anonymous = o'.anonymous ∧ (build s n).1 = .built o ∧
        (build t n.anonymous).1 = .built o' ∧ (build t n.anonymous).2.arena = t.arena ∧
        Passes strict (build t n.anonymous).2.findings
  | ⟨index, kind, type, id, name, location, properties, children, invalid⟩, hkind, hids, h => by
    have hfirst : s.registry.isDuplicate index = false := isDuplicate_of_clean hs index
    have hfirst' : t.registry.isDuplicate index = false := isDuplicate_of_clean ht index
    rw [build_state_of_first hfirst, publish_findings] at h
    have hbefore : Passes strict (buildChildren s children).2.findings :=
      h.of_prefix (conclude_findings _ _ _)
    obtain ⟨haborted, hfailed, -⟩ := buildChildren_silent hs children hbefore.silent
    have hkinds := children_of_value hkind haborted hfailed h
    obtain ⟨hitems, harena, hbefore'⟩ :=
      buildChildren_again hs ht hrecalls hpasses children hids hkinds hbefore
    obtain ⟨haborted', hfailed', -⟩ := buildChildren_silent ht children hbefore'.silent
    obtain ⟨o, o', hobject, houtcome, houtcome', harena', hpasses'⟩ :=
      conclude_anonymous hkind ⟨hitems, hfailed.trans hfailed'.symm⟩ haborted haborted' hfailed h
        hbefore'
    refine ⟨o, o', hobject, ?_, ?_, ?_, ?_⟩
    · rw [build_outcome_of_first hfirst]
      exact houtcome
    · rw [build_outcome_of_first (n := Node.anonymous _) hfirst']
      exact houtcome'
    · rw [build_state_of_first (n := Node.anonymous _) hfirst', publish_arena]
      exact harena'.trans harena
    · rw [build_state_of_first (n := Node.anonymous _) hfirst', publish_findings]
      exact hpasses'

theorem buildChildren_again {strict : Bool} {s t : State} (hs : Clean s) (ht : Clean t)
    (hrecalls : Recalls t.registry s.registry) (hpasses : Passes strict t.findings) :
    ∀ cs, Unnamed (Child.postorder cs) →
      (∀ k ∈ (buildChildren s cs).1.attached.items.map (·.object.kind), k = .filter) →
      Passes strict (buildChildren s cs).2.findings →
      List.Forall₂ Attachment.Alike (buildChildren s cs).1.attached.items
          (buildChildren t cs).1.attached.items ∧
        (buildChildren t cs).2.arena = t.arena ∧ Passes strict (buildChildren t cs).2.findings
  | [], _, _, _ => ⟨.nil, rfl, hpasses⟩
  | .nested n :: cs, hids, hkinds, h => by
    rw [buildChildren_nested] at hkinds h
    rw [Child.postorder] at hids
    have hnode : Unnamed n.postorder := fun m hm => hids m (List.mem_append_left _ hm)
    have hfirst := h.of_prefix (buildChildren_findings _ cs)
    obtain ⟨⟨o, houtcome, hof⟩, hcompletes⟩ := build_silent hs n hfirst.silent
    rw [houtcome] at hkinds
    obtain ⟨(hkind : o.kind = .filter), hkinds⟩ := List.forall_mem_cons.mp hkinds
    have hvalue : n.kind.isValue = true := by
      have hn : n.kind = .filter := hof.kind_eq.symm.trans hkind
      rw [hn]
      rfl
    have hanonymous : n.anonymous = n := anonymous_of_unnamed hnode
    obtain ⟨o₁, o', hobject, houtcome₁, houtcome', harena, hpasses'⟩ :=
      build_again hs ht hrecalls hpasses n hvalue hnode.children hfirst
    obtain rfl : o = o₁ := Outcome.built.inj (houtcome.symm.trans houtcome₁)
    rw [hanonymous] at houtcome' harena hpasses'
    have hrecalls' : Recalls (build t n).2.registry (build s n).2.registry := by
      rw [build_unnamed t n hnode, build_unnamed s n hnode]
      exact hrecalls
    obtain ⟨hitems, harena', hpasses''⟩ :=
      buildChildren_again hcompletes.clean (build_silent ht n hpasses'.silent).2.clean hrecalls'
        hpasses' cs (fun m hm => hids m (List.mem_append_right _ hm)) hkinds h
    rw [buildChildren_nested, buildChildren_nested, houtcome, houtcome']
    refine ⟨.cons ⟨hobject, fun hvolume => ?_⟩ hitems, harena'.trans harena, hpasses''⟩
    exact absurd (hkind.symm.trans hvolume) (by decide)
  | .reference r :: cs, hids, hkinds, h => by
    rw [buildChildren_reference] at hkinds h
    dsimp only at hkinds h
    obtain ⟨o, hresolve⟩ := resolve_clean hs r (h.of_prefix (buildChildren_findings _ cs)).silent
    obtain ⟨o', ho', hobject⟩ := hrecalls r.id o (resolve_eq_some_iff.mp hresolve)
    have hresolve' : t.registry.resolve r.id r.location = .ok (some o') :=
      resolve_eq_some_iff.mpr ho'
    rw [hresolve] at hkinds h
    obtain ⟨(hkind : o.kind = .filter), hkinds⟩ := List.forall_mem_cons.mp hkinds
    obtain ⟨hitems, harena, hpasses'⟩ :=
      buildChildren_again hs ht hrecalls hpasses cs hids hkinds h
    rw [buildChildren_reference, buildChildren_reference]
    simp only [hresolve, hresolve']
    refine ⟨.cons ⟨hobject, fun hvolume => ?_⟩ hitems, harena, hpasses'⟩
    exact absurd (hkind.symm.trans hvolume) (by decide)

end

end Instantiation

end SceneGraph
