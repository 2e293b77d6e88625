import SceneGraph.Proofs.AnonymousScene
import SceneGraph.Proofs.Rebuilding

/-!
# References to values can be written inline

A reference to a sampler, film or filter can be replaced by a copy of the node that it names,
without the id, as long as no node inside has an id (`Replaces`).  If a forest makes a scene
without a problem, then so does the forest with any such references replaced, and it is the same
scene (`run_inlined`).

The two runs go side by side.  They declare the same ids (`declareAll_inlined`), and between
nodes their states are equal but for ids of values (`State.Alike`):

    a node, its references replaced      → built in both, with alike objects   (build_inlined)
    a reference that stays               → known in both, with alike objects
    a reference and a copy in its place  → the object is built again           (build_again)
-/

namespace SceneGraph

/-! ## Definitions -/

mutual

/-- Some references in the node are replaced by nodes, as `P` allows. All else is the same. -/
def Node.Inlined (P : Reference → Node → Prop) : Node → Node → Prop
  | ⟨index, kind, type, id, name, location, properties, children, invalid⟩, n' =>
    ∃ children', n' = ⟨index, kind, type, id, name, location, properties, children', invalid⟩ ∧
      Child.Inlined P children children'

def Child.Inlined (P : Reference → Node → Prop) : List Child → List Child → Prop
  | [], cs' => cs' = []
  | .nested n :: cs, cs' =>
    ∃ n' ds, cs' = .nested n' :: ds ∧ n.Inlined P n' ∧ Child.Inlined P cs ds
  | .reference r :: cs, cs' =>
    ∃ c ds, cs' = c :: ds ∧ (c = .reference r ∨ ∃ n, c = .nested n ∧ P r n) ∧
      Child.Inlined P cs ds

end

/-- The node can stand in place of a reference in a forest: it is a copy, with other numbers and
without the id, of a value with the id in question that has no ids inside. -/
def Replaces (forest : List Node) (r : Reference) (copy : Node) : Prop :=
  ∃ d ∈ postorder forest, d.id = some r.id ∧ d.kind.isValue = true ∧
    Unnamed (Child.postorder d.children) ∧ copy.unnumbered = d.anonymous.unnumbered

def Status.anonymous : Status Object → Status Object
  | .built o => .built o.anonymous
  | status => status

def Entry.anonymous (e : Entry Object) : Entry Object := { e with status := e.status.anonymous }

/-- The registry without the ids of samplers and films in its objects. -/
def Registry.anonymous (r : Registry Object) : Registry Object :=
  { r with entries := r.entries.map Entry.anonymous }

/-- The states are equal but for ids of values, and for what was found. -/
structure Instantiation.State.Alike (s t : Instantiation.State) : Prop where
  registry : s.registry.anonymous = t.registry.anonymous
  arena : s.arena = t.arena

mutual

/-- No reference needs to be replaced. -/
theorem Node.Inlined.refl (P : Reference → Node → Prop) : ∀ n : Node, n.Inlined P n
  | ⟨_, _, _, _, _, _, _, children, _⟩ => ⟨children, rfl, Child.Inlined.refl P children⟩

theorem Child.Inlined.refl (P : Reference → Node → Prop) : ∀ cs, Child.Inlined P cs cs
  | [] => rfl
  | .nested n :: cs => ⟨n, cs, rfl, Node.Inlined.refl P n, Child.Inlined.refl P cs⟩
  | .reference r :: cs => ⟨.reference r, cs, rfl, .inl rfl, Child.Inlined.refl P cs⟩

end

theorem Node.Inlined.name {P : Reference → Node → Prop} {n n' : Node} (h : n.Inlined P n') :
    n'.name = n.name := by
  cases n
  obtain ⟨children', rfl, -⟩ := h
  rfl

theorem Node.Inlined.ref {P : Reference → Node → Prop} {n n' : Node} (h : n.Inlined P n') :
    n'.ref = n.ref := by
  cases n
  obtain ⟨children', rfl, -⟩ := h
  rfl

theorem Node.Inlined.location {P : Reference → Node → Prop} {n n' : Node} (h : n.Inlined P n') :
    n'.location = n.location := congrArg NodeRef.location h.ref

/-! ## Copies -/

mutual

/-- Leaving out the numbers keeps the ids. -/
theorem Node.unnumbered_ids : ∀ n : Node,
    n.unnumbered.postorder.map (·.id) = n.postorder.map (·.id)
  | ⟨index, kind, type, id, name, location, properties, children, invalid⟩ => by
    rw [Node.unnumbered, Node.postorder_eq, Node.postorder_eq, List.map_append, List.map_append,
      Child.unnumbered_ids children]
    rfl

theorem Child.unnumbered_ids : ∀ cs : List Child,
    (Child.postorder (Child.unnumbered cs)).map (·.id) = (Child.postorder cs).map (·.id)
  | [] => rfl
  | .nested n :: cs => by
    rw [Child.unnumbered, Child.postorder, Child.postorder, List.map_append, List.map_append,
      Node.unnumbered_ids n, Child.unnumbered_ids cs]
  | .reference r :: cs => by
    rw [Child.unnumbered, Child.postorder, Child.postorder, Child.unnumbered_ids cs]

end

theorem unnamed_iff {nodes : List Node} : Unnamed nodes ↔ ∀ i ∈ nodes.map (·.id), i = none := by
  simp [Unnamed]

/-- A value without ids inside has no id left when its own is left out. -/
theorem unnamed_anonymous {d : Node} (h : Unnamed (Child.postorder d.children)) :
    Unnamed d.anonymous.postorder := by
  intro m hm
  rw [Node.postorder_eq] at hm
  rcases List.mem_append.mp hm with hm | hm
  · exact h m hm
  · rw [List.mem_singleton.mp hm]
    rfl

theorem unnamed_copy {copy d : Node} (h : Unnamed (Child.postorder d.children))
    (hcopy : copy.unnumbered = d.anonymous.unnumbered) : Unnamed copy.postorder := by
  have hd := unnamed_anonymous h
  rw [unnamed_iff, ← Node.unnumbered_ids] at hd ⊢
  rw [hcopy]
  exact hd

namespace Instantiation

open Finding (Passes)

/-! ## Declaring -/

mutual

theorem declareNode_unnamed (r : Registry Object) :
    ∀ n, Unnamed n.postorder → declareNode r n = (r, [])
  | ⟨index, kind, type, id, name, location, properties, children, invalid⟩, h => by
    rw [Node.postorder_eq] at h
    obtain rfl : id = none := h _ (List.mem_append_right _ (List.mem_singleton_self _))
    rw [declareNode]
    exact declareChildren_unnamed r children fun m hm => h m (List.mem_append_left _ hm)

theorem declareChildren_unnamed (r : Registry Object) :
    ∀ cs, Unnamed (Child.postorder cs) → declareChildren r cs = (r, [])
  | [], _ => rfl
  | .nested n :: cs, h => by
    rw [Child.postorder] at h
    rw [declareChildren, declareNode_unnamed r n fun m hm => h m (List.mem_append_left _ hm)]
    simp only [declareChildren_unnamed r cs fun m hm => h m (List.mem_append_right _ hm)]
    rfl
  | .reference _ :: cs, h => by
    rw [declareChildren]
    exact declareChildren_unnamed r cs h

end

section

variable {P : Reference → Node → Prop}

mutual

theorem declareNode_inlined (hP : ∀ r copy, P r copy → Unnamed copy.postorder)
    (r : Registry Object) : ∀ n n', n.Inlined P n' → declareNode r n' = declareNode r n
  | ⟨index, kind, type, id, name, location, properties, children, invalid⟩, n', h => by
    obtain ⟨children', rfl, hchildren⟩ := h
    cases id with
    | none =>
      rw [declareNode, declareNode]
      exact declareChildren_inlined hP r children children' hchildren
    | some id =>
      rw [declareNode, declareNode]
      split
      · rfl
      · exact declareChildren_inlined hP _ children children' hchildren

theorem declareChildren_inlined (hP : ∀ r copy, P r copy → Unnamed copy.postorder)
    (r : Registry Object) :
    ∀ cs cs', Child.Inlined P cs cs' → declareChildren r cs' = declareChildren r cs
  | [], _, h => by
    cases h
    rfl
  | .nested n :: cs, _, h => by
    obtain ⟨n', ds, rfl, hn, hcs⟩ := h
    rw [declareChildren, declareChildren, declareNode_inlined hP r n n' hn]
    simp only [declareChildren_inlined hP _ cs ds hcs]
  | .reference q :: cs, _, h => by
    obtain ⟨c, ds, rfl, rfl | ⟨copy, rfl, hcopy⟩, hcs⟩ := h
    · rw [declareChildren, declareChildren]
      exact declareChildren_inlined hP r cs ds hcs
    · rw [declareChildren, declareChildren, declareNode_unnamed r copy (hP q copy hcopy)]
      simp only [declareChildren_inlined hP r cs ds hcs]
      rfl

end

/-- Copies declare nothing. -/
theorem declareAll_inlined (hP : ∀ r copy, P r copy → Unnamed copy.postorder)
    {ns ns' : List Node} (h : List.Forall₂ (Node.Inlined P) ns ns') :
    ∀ r, declareAll r ns' = declareAll r ns := by
  induction h with
  | nil => exact fun _ => rfl
  | cons hn _ ih =>
    intro r
    rw [declareAll, declareAll, declareNode_inlined hP r _ _ hn]
    simp only [ih]

end

/-! ## Alike states -/

theorem find?_anonymous (r : Registry Object) (id : String) :
    r.anonymous.find? id = (r.find? id).map Entry.anonymous := by
  rw [Registry.find?, Registry.anonymous, List.find?_map]
  rfl

theorem value?_anonymous (r : Registry Object) (id : String) :
    r.anonymous.value? id = (r.value? id).map Object.anonymous := by
  rw [Registry.value?, Registry.value?, find?_anonymous]
  cases r.find? id with
  | none => rfl
  | some e =>
    rw [Option.map_some, Option.bind_some, Option.bind_some, Entry.anonymous]
    cases e.status <;> rfl

theorem finish_anonymous (r : Registry Object) (id : String) (index : Nat)
    (status : Status Object) :
    (r.finish id index status).anonymous = r.anonymous.finish id index status.anonymous := by
  simp only [Registry.finish, Registry.anonymous, List.map_map]
  congr 1
  apply List.map_congr_left
  intro e _
  show Entry.anonymous (if _ then _ else e) = if e.id = id ∧ e.index = index then _ else _
  split <;> rfl

namespace State

variable {s t : State} (h : s.Alike t)

include h

theorem Alike.recalls : Recalls t.registry s.registry := by
  intro id o ho
  have hvalue : (t.registry.value? id).map Object.anonymous = some o.anonymous := by
    rw [← value?_anonymous, ← h.registry, value?_anonymous, ho]
    rfl
  obtain ⟨o', ho', hobject⟩ := Option.map_eq_some_iff.mp hvalue
  exact ⟨o', ho', hobject.symm⟩

theorem Alike.publish (id : Option String) (index : Nat) {o o' : Object}
    (hobject : o.anonymous = o'.anonymous) :
    (s.publish id index (.built o)).Alike (t.publish id index (.built o')) := by
  cases id with
  | none => exact h
  | some id =>
    refine ⟨?_, h.arena⟩
    rw [publish_registry_some, publish_registry_some, finish_anonymous, finish_anonymous,
      h.registry]
    simp only [Outcome.status, Status.anonymous, hobject]

end State

/-- Equal products take equal places. -/
theorem store_alike (a : Arena) (id : Option String) {p p' : Product}
    (h : p.anonymous = p'.anonymous) :
    (a.store id p).1.anonymous = (a.store id p').1.anonymous ∧
      (a.store id p).2 = (a.store id p').2 := by
  cases p with
  | object o =>
    cases p' with
    | object o' => exact ⟨Product.object.inj h, rfl⟩
    | _ => cases h
  | bsdf b =>
    cases p' with
    | bsdf b' => rw [Product.bsdf.inj h]; exact ⟨rfl, rfl⟩
    | _ => cases h
  | volume v =>
    cases p' with
    | volume v' => rw [Product.volume.inj h]; exact ⟨rfl, rfl⟩
    | _ => cases h

/-! ## Two runs side by side -/

/-- A copy is built to an object like the one that the reference gives. -/
theorem build_copy {strict : Bool} {forest : List Node} {s t : State} {todo : List Node}
    (hdistinct : ((postorder forest).filterMap (·.id)).Nodup) (ht : Clean t)
    (halike : s.Alike t) (hpasses : Passes strict t.findings)
    (hway : Underway strict (postorder forest) s.registry todo) {r : Reference} {copy : Node}
    (hcopy : Replaces forest r copy) {o : Object} (ho : s.registry.value? r.id = some o) :
    o.kind.isValue = true ∧ ∃ o', o.anonymous = o'.anonymous ∧ (build t copy).1 = .built o' ∧
      (build t copy).2.registry = t.registry ∧ (build t copy).2.arena = t.arena ∧
      Passes strict (build t copy).2.findings := by
  obtain ⟨d, hd, hid, hkind, hids, hsame⟩ := hcopy
  obtain ⟨m, hm, hmid, before, hbefore, hkeeps, hbuilt, hpassed⟩ := hway.origin r.id o ho
  obtain rfl : d = m := eq_of_ids_nodup hdistinct hd hm hid hmid
  have hrecalls : Recalls t.registry before.registry := fun x o₀ ho₀ =>
    halike.recalls x o₀ (hkeeps x o₀ ho₀)
  obtain ⟨o₁, o', hobject, hbuilt₁, hbuilt', harena, hpasses'⟩ :=
    build_again hbefore ht hrecalls hpasses d hkind hids hpassed
  obtain rfl : o = o₁ := Outcome.built.inj (hbuilt.symm.trans hbuilt₁)
  have hunnamed := unnamed_copy hids hsame
  have hbuild : build t copy = build t d.anonymous := by
    rw [← build_unnumbered ht.unrepeated copy hunnamed, hsame,
      build_unnumbered ht.unrepeated d.anonymous (unnamed_anonymous hids)]
  obtain ⟨⟨o₂, hbuilt₂, hof⟩, -⟩ := build_silent hbefore d hpassed.silent
  obtain rfl : o = o₂ := Outcome.built.inj (hbuilt.symm.trans hbuilt₂)
  have hvalue : o.kind.isValue = true := by
    rw [hof.kind_eq]
    exact hkind
  refine ⟨hvalue, o', hobject, ?_, build_unnamed t copy hunnamed, ?_, ?_⟩
  · rw [hbuild]
    exact hbuilt'
  · rw [hbuild]
    exact harena
  · rw [hbuild]
    exact hpasses'

mutual

/-- A node that passes also passes with references in it replaced, and ends with an object that
is equal but for ids. -/
theorem build_inlined {strict : Bool} {forest : List Node}
    (hdistinct : ((postorder forest).filterMap (·.id)).Nodup) {s t : State} (hs : Clean s)
    (ht : Clean t) (halike : s.Alike t) (hpasses : Passes strict t.findings) :
    ∀ n n' todo, n.Inlined (Replaces forest) n' →
      Underway strict (postorder forest) s.registry (n.postorder ++ todo) →
      Passes strict (build s n).2.findings →
      ∃ o o', o.anonymous = o'.anonymous ∧ (build s n).1 = .built o ∧
        (build t n').1 = .built o' ∧ (build s n).2.Alike (build t n').2 ∧
        Passes strict (build t n').2.findings
  | ⟨index, kind, type, id, name, location, properties, children, invalid⟩, n', todo, hinlined,
    hway, h => by
    obtain ⟨children', rfl, hchildren⟩ := hinlined
    have hfirst : s.registry.isDuplicate index = false := isDuplicate_of_clean hs index
    have hfirst' : t.registry.isDuplicate index = false := isDuplicate_of_clean ht index
    rw [build_state_of_first hfirst, publish_findings] at h
    rw [Node.postorder_eq, List.append_assoc] at hway
    have hbefore : Passes strict (buildChildren s children).2.findings :=
      h.of_prefix (conclude_findings _ _ _)
    obtain ⟨haborted, hfailed, -⟩ := buildChildren_silent hs children hbefore.silent
    obtain ⟨hitems, hstates, hbefore'⟩ := buildChildren_inlined hdistinct hs ht halike hpasses
      children children' _ hchildren hway hbefore
    obtain ⟨haborted', hfailed', -⟩ := buildChildren_silent ht children' hbefore'.silent
    obtain ⟨product, product', hproduct, ⟨houtcome, harena⟩, houtcome', harena', hpasses'⟩ :=
      conclude_alike ⟨hitems, hfailed.trans hfailed'.symm⟩ haborted haborted' hfailed h hbefore'
    have hbuilt := (build_outcome_of_first hfirst).trans houtcome
    -- the end of a node does not look at its references, only at what they gave
    have hbuilt' : (build t ⟨index, kind, type, id, name, location, properties, children',
        invalid⟩).1 = _ := (build_outcome_of_first hfirst').trans houtcome'
    obtain ⟨hobject, hplaces⟩ := store_alike (buildChildren t children').2.arena id hproduct
    have hconcluded : (conclude ⟨index, kind, type, id, name, location, properties, children,
        invalid⟩ (buildChildren s children).1 (buildChildren s children).2).2.Alike
        (conclude ⟨index, kind, type, id, name, location, properties, children', invalid⟩
          (buildChildren t children').1 (buildChildren t children').2).2 := by
      constructor
      · rw [conclude_registry, conclude_registry]
        exact hstates.registry
      · rw [harena, hstates.arena, hplaces]
        exact harena'.symm
    rw [hstates.arena] at hbuilt
    refine ⟨_, _, hobject, hbuilt, hbuilt', ?_, ?_⟩
    · rw [build_state_of_first hfirst, build_state_of_first hfirst', hbuilt, hbuilt']
      exact hconcluded.publish id index hobject
    · rw [build_state_of_first hfirst', publish_findings]
      exact hpasses'

theorem buildChildren_inlined {strict : Bool} {forest : List Node}
    (hdistinct : ((postorder forest).filterMap (·.id)).Nodup) {s t : State} (hs : Clean s)
    (ht : Clean t) (halike : s.Alike t) (hpasses : Passes strict t.findings) :
    ∀ cs cs' todo, Child.Inlined (Replaces forest) cs cs' →
      Underway strict (postorder forest) s.registry (Child.postorder cs ++ todo) →
      Passes strict (buildChildren s cs).2.findings →
      List.Forall₂ Attachment.Alike (buildChildren s cs).1.attached.items
          (buildChildren t cs').1.attached.items ∧
        (buildChildren s cs).2.Alike (buildChildren t cs').2 ∧
        Passes strict (buildChildren t cs').2.findings
  | [], _, _, hinlined, _, _ => by
    cases hinlined
    exact ⟨.nil, halike, hpasses⟩
  | .nested n :: cs, _, todo, hinlined, hway, h => by
    obtain ⟨n', ds, rfl, hn, hcs⟩ := hinlined
    rw [buildChildren_nested] at h
    rw [Child.postorder, List.append_assoc] at hway
    have hfirst := h.of_prefix (buildChildren_findings _ cs)
    obtain ⟨o, o', hobject, houtcome, houtcome', hstates, hpasses'⟩ :=
      build_inlined hdistinct hs ht halike hpasses n n' _ hn hway hfirst
    obtain ⟨hitems, hstates', hpasses''⟩ := buildChildren_inlined hdistinct
      (build_silent hs n hfirst.silent).2.clean (build_silent ht n' hpasses'.silent).2.clean
      hstates hpasses' cs ds todo hcs (build_underway hs n _ hway hfirst).1 h
    rw [buildChildren_nested, buildChildren_nested, houtcome, houtcome']
    have hitem : Attachment.Alike ⟨n.name, o, n.location, false⟩
        ⟨n'.name, o', n'.location, false⟩ := by
      rw [hn.name, hn.location]
      exact attachment_alike _ _ _ hobject
    exact ⟨.cons hitem hitems, hstates', hpasses''⟩
  | .reference r :: cs, _, todo, hinlined, hway, h => by
    rw [buildChildren_reference] at h
    dsimp only at h
    obtain ⟨o, hresolve⟩ := resolve_clean hs r (h.of_prefix (buildChildren_findings _ cs)).silent
    have ho := resolve_eq_some_iff.mp hresolve
    rw [hresolve] at h
    obtain ⟨c, ds, rfl, rfl | ⟨copy, rfl, hcopy⟩, hcs⟩ := hinlined
    · obtain ⟨o', ho', hobject⟩ := halike.recalls r.id o ho
      have hresolve' : t.registry.resolve r.id r.location = .ok (some o') :=
        resolve_eq_some_iff.mpr ho'
      obtain ⟨hitems, hstates, hpasses'⟩ :=
        buildChildren_inlined hdistinct hs ht halike hpasses cs ds todo hcs hway h
      rw [buildChildren_reference, buildChildren_reference]
      simp only [hresolve, hresolve']
      exact ⟨.cons (attachment_alike _ _ _ hobject) hitems, hstates, hpasses'⟩
    · obtain ⟨hvalue, o', hobject, houtcome', hregistry, harena, hpasses'⟩ :=
        build_copy hdistinct ht halike hpasses hway hcopy ho
      have halike' : s.Alike (build t copy).2 := by
        refine ⟨?_, ?_⟩
        · rw [hregistry]
          exact halike.registry
        · rw [harena]
          exact halike.arena
      obtain ⟨hitems, hstates, hpasses''⟩ := buildChildren_inlined hdistinct hs
        (build_silent ht copy hpasses'.silent).2.clean halike' hpasses' cs ds todo hcs hway h
      rw [buildChildren_reference, buildChildren_nested, houtcome']
      simp only [hresolve]
      have hitem : Attachment.Alike ⟨r.name, o, r.location, true⟩
          ⟨copy.name, o', copy.location, false⟩ := by
        refine ⟨hobject, fun hvolume => ?_⟩
        have hkind : o.kind = .volume := hvolume
        rw [hkind] at hvalue
        cases hvalue
      exact ⟨.cons hitem hitems, hstates, hpasses''⟩

end

theorem buildAll_inlined {strict : Bool} {forest ns ns' : List Node}
    (hdistinct : ((postorder forest).filterMap (·.id)).Nodup)
    (hinlined : List.Forall₂ (Node.Inlined (Replaces forest)) ns ns') : ∀ {s t : State},
      Clean s → Clean t → s.Alike t → Passes strict t.findings →
      Underway strict (postorder forest) s.registry (postorder ns) →
      Passes strict (buildAll s ns).2.findings →
      List.Forall₂ Root.Alike (buildAll s ns).1 (buildAll t ns').1 ∧
        (buildAll s ns).2.arena = (buildAll t ns').2.arena ∧
        Passes strict (buildAll t ns').2.findings := by
  induction hinlined with
  | nil => exact fun _ _ halike hpasses _ _ => ⟨.nil, halike.arena, hpasses⟩
  | @cons n n' ns ns' hn _ ih =>
    intro s t hs ht halike hpasses hway h
    have hway' : Underway strict (postorder forest) s.registry (n.postorder ++ postorder ns) := hway
    rw [buildAll_cons] at h
    have hfirst := h.of_prefix (buildAll_findings ns _)
    obtain ⟨o, o', hobject, houtcome, houtcome', hstates, hpasses'⟩ :=
      build_inlined hdistinct hs ht halike hpasses n n' _ hn hway' hfirst
    obtain ⟨hroots, harena, hpasses''⟩ := ih (build_silent hs n hfirst.silent).2.clean
      (build_silent ht n' hpasses'.silent).2.clean hstates hpasses'
      (build_underway hs n _ hway' hfirst).1 h
    rw [buildAll_cons, buildAll_cons, houtcome, houtcome']
    exact ⟨.cons ⟨hn.ref.symm, hobject⟩ hroots, harena, hpasses''⟩

/-! ## Top theorem -/

/-- **A value can be written where it is referred to.**  If a forest makes a scene without a
problem, then the forest in which references to values are replaced by copies of them makes the
same scene, again without a problem. -/
theorem run_inlined (strict : Bool) (version : Version) (params : Parameter.Table)
    (forest forest' : List Node) (scene : Scene)
    (hpasses : Finding.problems strict (run forest).2 = [])
    (hscene : Assembly.assemble version params (run forest).1 = .ok scene)
    (hinlined : List.Forall₂ (Node.Inlined (Replaces forest)) forest forest') :
    Finding.problems strict (run forest').2 = [] ∧
      Assembly.assemble version params (run forest').1 = .ok scene := by
  have hrun : Passes strict (buildAll (initial forest) forest).2.findings := hpasses
  have hstart := hrun.of_prefix (buildAll_findings forest _)
  have hclean := initial_clean hstart.silent
  have hway : Underway strict (postorder forest) (initial forest).registry (postorder forest) :=
    initial_underway hclean
  have hinitial : initial forest' = initial forest := by
    have hdeclared := declareAll_inlined (P := Replaces forest)
      (fun r copy ⟨d, _, _, _, hids, hsame⟩ => unnamed_copy hids hsame) hinlined Registry.empty
    rw [initial, initial, declared, declared, hdeclared]
  obtain ⟨hroots, harena, hpasses'⟩ :=
    buildAll_inlined hway.distinct hinlined hclean hclean ⟨rfl, rfl⟩ hstart hway hrun
  rw [run_eq, hinitial]
  exact ⟨hpasses', Assembly.assemble_alike hroots harena hscene⟩

/-- A film with a filter that it refers to. -/
def namedFilm (index : Nat) (id : Option String) : Node :=
  ⟨index, .film, "hdrfilm", id, none, ⟨3, 1⟩, [⟨"width", .integer 32, ⟨3, 5⟩⟩],
    [.reference ⟨"narrow", none, ⟨4, 5⟩⟩], []⟩

/-- A view of a cube with the given film. -/
def cubeSeenOn (film : Child) : List Node :=
  [⟨0, .filter, "tent", some "narrow", none, ⟨2, 1⟩, [], [], []⟩,
   namedFilm 1 (some "small"),
   ⟨2, .sensor, "orthographic", none, none, ⟨5, 1⟩, [],
    [.nested ⟨3, .sampler, "independent", none, none, ⟨6, 5⟩, [], [], []⟩, film], []⟩,
   ⟨4, .shape, "cube", none, none, ⟨8, 1⟩, [],
    [.nested ⟨5, .bsdf, "conductor", none, none, ⟨9, 5⟩, [], [], []⟩], []⟩]

theorem run_inlined_cubeSeenOn :
    let forest := cubeSeenOn (.reference ⟨"small", none, ⟨7, 5⟩⟩)
    let forest' := cubeSeenOn (.nested (namedFilm 6 none))
    ∃ scene, Assembly.assemble ⟨2, 1, 0⟩ .empty (run forest).1 = .ok scene ∧
      scene.sensors.map (fun s => (s.film.width, s.film.filter)) = [(32, .tent)] ∧
      Finding.problems true (run forest').2 = [] ∧
      Assembly.assemble ⟨2, 1, 0⟩ .empty (run forest').1 = .ok scene := by
  intro forest forest'
  have hload : (Assembly.assemble ⟨2, 1, 0⟩ .empty (run forest).1).toOption.any (fun scene =>
      scene.sensors.map (fun s => (s.film.width, s.film.filter)) == [(32, .tent)]) = true := by
    decide +kernel
  obtain ⟨scene, hscene, hfilm⟩ := exists_of_any hload
  have hreplaces : Replaces forest ⟨"small", none, ⟨7, 5⟩⟩ (namedFilm 6 none) :=
    ⟨namedFilm 1 (some "small"), .tail _ (.head _), rfl, rfl, fun _ hm => (by cases hm), rfl⟩
  have hinlined : List.Forall₂ (Node.Inlined (Replaces forest)) forest forest' :=
    .cons (.refl _ _) (.cons (.refl _ _) (.cons
      ⟨_, rfl, _, _, rfl, .refl _ _, _, _, rfl, .inr ⟨_, rfl, hreplaces⟩, rfl⟩
      (.cons (.refl _ _) .nil)))
  exact ⟨scene, hscene, eq_of_beq hfilm,
    run_inlined true ⟨2, 1, 0⟩ .empty forest forest' scene (by decide +kernel) hscene hinlined⟩

end Instantiation

end SceneGraph
