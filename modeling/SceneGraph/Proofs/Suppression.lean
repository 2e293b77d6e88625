import SceneGraph.Proofs.Fates
import SceneGraph.Proofs.Inspection

/-!
# Aborted nodes are silent

A node that is cut short finds and makes nothing, and cuts short the node around it in turn, up
to the top.  A child that merely failed does not: the node around it is looked at as if the child
were not there, except that a two-sided bsdf counts it.  `run_fates` says so of a whole run, as a
sum over its fates.

    nobody else reports about a node      mem_findingsAll, about_of_mem_reports
    cut short up to the top               cuts_of_mem_all
    failed children                       reports_unhindered
-/

namespace SceneGraph

/-- A finding that names a node as what is wrong. -/
def Finding.About (n : Node) : Finding → Prop
  | problem (.violation r _) => r = n.ref
  | problem (.missingProperty r _) => r = n.ref
  | problem (.unknownType kind type location) =>
    kind = n.kind ∧ type = n.type ∧ location = n.location
  | problem _ => False
  | unused u => u.node = n.ref

/-- Nodes that a finding is about are at the same place. -/
theorem Finding.About.location_eq {m n : Node} {x : Finding} (hm : x.About m) (hn : x.About n) :
    m.location = n.location := by
  have href : ∀ {r : NodeRef}, r = m.ref → r = n.ref → m.location = n.location :=
    fun h h' => congrArg NodeRef.location (h.symm.trans h')
  unfold About at hm hn
  split at hm
  · exact href hm hn
  · exact href hm hn
  · exact hm.2.2.symm.trans hn.2.2
  · exact hm.elim
  · exact href hm hn

namespace Instantiation

open Fate

namespace Fate

/-! ## Where findings come from -/

/-- A finding comes from a refused reference, or from the end of a node that is not aborted. -/
def Stems (known : List Fate) (x : Finding) : Prop :=
  (∃ q p, answered q (.error p) ∈ known ∧ x = .problem p) ∨
    ∃ n inner outcome, ended n inner outcome ∈ known ∧ outcome ≠ .aborted ∧ x ∈ reports n inner

theorem Stems.mono {known known' : List Fate} {x : Finding} (h : Stems known x)
    (hsub : known ⊆ known') : Stems known' x := by
  obtain ⟨q, p, hmem, hx⟩ | ⟨n, inner, outcome, hmem, hx⟩ := h
  · exact .inl ⟨q, p, hsub hmem, hx⟩
  · exact .inr ⟨n, inner, outcome, hsub hmem, hx⟩

mutual

theorem stems_of_mem_findings : ∀ f : Fate, ∀ x ∈ f.findings, Stems f.all x
  | omitted n, _, hx => nomatch hx
  | answered q (.ok object), _, hx => nomatch hx
  | answered q (.error p), x, hx =>
    .inl ⟨q, p, List.mem_singleton_self _, List.mem_singleton.mp hx⟩
  | ended n inner outcome, x, hx => by
    rw [findings] at hx
    rcases List.mem_append.mp hx with hx | hx
    · exact (stems_of_mem_findingsAll inner x hx).mono (List.subset_cons_self _ _)
    · split at hx
      · cases hx
      · next haborted => exact .inr ⟨n, inner, outcome, List.mem_cons_self, haborted, hx⟩

theorem stems_of_mem_findingsAll : ∀ fs : List Fate, ∀ x ∈ findingsAll fs, Stems (allIn fs) x
  | [], _, hx => nomatch hx
  | f :: fs, x, hx => by
    rw [findingsAll] at hx
    rcases List.mem_append.mp hx with hx | hx
    · exact (stems_of_mem_findings f x hx).mono (List.subset_append_left _ _)
    · exact (stems_of_mem_findingsAll fs x hx).mono (List.subset_append_right _ _)

end

/-- What is found at the end of a node is about this node, if about any. -/
theorem about_of_mem_reports {n m : Node} {inner : List Fate} {x : Finding}
    (hx : x ∈ reports n inner) (hm : x.About m) : x.About n := by
  unfold reports at hx
  split at hx
  · obtain rfl := List.mem_singleton.mp hx
    exact ⟨rfl, rfl, rfl⟩
  · next p hp =>
    obtain ⟨q, rfl, hremark⟩ | ⟨u, rfl, hnode⟩ := inspect_remarks _ hp hx
    · cases hremark with
      | broken rule => exact rfl
      | missing name => exact rfl
      | property expected found hproperty => exact hm.elim
      | child name expected found hplace => exact hm.elim
    · exact hnode

/-! ## Up to the top -/

mutual

theorem all_subset : ∀ f : Fate, ∀ g ∈ f.all, g.all ⊆ f.all
  | omitted n, g, hg => by
    obtain rfl := List.mem_singleton.mp hg
    exact List.Subset.refl _
  | answered q target, g, hg => by
    obtain rfl := List.mem_singleton.mp hg
    exact List.Subset.refl _
  | ended n inner outcome, g, hg => by
    rcases List.mem_cons.mp hg with rfl | hg
    · exact List.Subset.refl _
    · exact List.Subset.trans (allIn_subset inner g hg) (List.subset_cons_self _ _)

theorem allIn_subset : ∀ fs : List Fate, ∀ g ∈ allIn fs, g.all ⊆ allIn fs
  | f :: fs, g, hg => by
    rcases List.mem_append.mp hg with hg | hg
    · exact List.Subset.trans (all_subset f g hg) (List.subset_append_left _ _)
    · exact List.Subset.trans (allIn_subset fs g hg) (List.subset_append_right _ _)

end

section

variable {r : Registry Object} {known : List Fate}

mutual

/-- What is cut short cuts short all around it. -/
theorem cuts_of_mem_all : ∀ f : Fate, (∀ g ∈ f.all, g.Right r known) →
    ∀ g ∈ f.all, g.cuts = true → f.cuts = true
  | omitted n, _, _, _, _ => rfl
  | answered q target, _, g, hg, hcuts => by
    obtain rfl := List.mem_singleton.mp hg
    exact hcuts
  | ended n inner outcome, hright, g, hg, hcuts => by
    rcases List.mem_cons.mp hg with rfl | hg
    · exact hcuts
    · obtain ⟨-, hlawful⟩ := hright _ List.mem_cons_self
      have hinner := fun g hg => hright g (List.mem_cons_of_mem _ hg)
      exact decide_eq_true (hlawful.aborted.mpr (exists_cuts inner hinner g hg hcuts))

theorem exists_cuts : ∀ fs : List Fate, (∀ g ∈ allIn fs, g.Right r known) →
    ∀ g ∈ allIn fs, g.cuts = true → ∃ f ∈ fs, f.cuts = true
  | f :: fs, hright, g, hg, hcuts => by
    rcases List.mem_append.mp hg with hg | hg
    · exact ⟨f, List.mem_cons_self, cuts_of_mem_all f
        (fun g hg => hright g (List.mem_append_left _ hg)) g hg hcuts⟩
    · obtain ⟨f', hf', hcuts'⟩ := exists_cuts fs
        (fun g hg => hright g (List.mem_append_right _ hg)) g hg hcuts
      exact ⟨f', List.mem_cons_of_mem _ hf', hcuts'⟩

end

end

/-! ## Every node has one fate -/

/-- The node of a fate, with its outcome. -/
def outcome? : Fate → Option (Node × Outcome)
  | omitted _ => none
  | answered _ _ => none
  | ended n _ outcome => some (n, outcome)

end Fate

/-- The nodes that end in some fates. -/
def endedIn (fs : List Fate) : List Node := (fs.filterMap outcome?).map Prod.fst

theorem endedIn_append (fs gs : List Fate) : endedIn (fs ++ gs) = endedIn fs ++ endedIn gs := by
  simp [endedIn]

mutual

theorem fate_nodes (s : State) : ∀ n, (endedIn (fate s n).all).Sublist n.preorder
  | ⟨index, kind, type, id, name, location, properties, children, invalid⟩ => by
    by_cases h : s.registry.isDuplicate index = true
    · rw [fate_of_duplicate h]
      exact List.nil_sublist _
    · rw [fate_of_first (Bool.eq_false_iff.mpr h), Node.preorder_eq]
      exact (fates_nodes s children).cons_cons _

theorem fates_nodes (s : State) : ∀ cs, (endedIn (allIn (fates s cs))).Sublist (Child.preorder cs)
  | [] => List.nil_sublist _
  | .nested n :: cs => by
    rw [fates, allIn, endedIn_append, Child.preorder]
    exact (fate_nodes s n).append (fates_nodes _ cs)
  | .reference q :: cs => by
    rw [fates, allIn, endedIn_append, Child.preorder]
    exact fates_nodes _ cs

end

theorem fatesAll_nodes (s : State) (forest : List Node) :
    (endedIn (allIn (fatesAll s forest))).Sublist (preorder forest) := by
  induction forest generalizing s with
  | nil => exact List.nil_sublist _
  | cons n ns ih =>
    rw [fatesAll, allIn, endedIn_append, preorder, List.flatMap_cons]
    exact (fate_nodes s n).append (ih _)

/-- Where all nodes are at different places, an outcome is known by the place. -/
theorem outcome_eq_of_location {forest : List Node}
    (hplaces : ((preorder forest).map (·.location)).Nodup) {m n : Node} {is js : List Fate}
    {o o' : Outcome} (hm : .ended m is o ∈ allIn (runFates forest))
    (hn : .ended n js o' ∈ allIn (runFates forest)) (h : m.location = n.location) : o = o' := by
  have hnodup : (((allIn (runFates forest)).filterMap outcome?).map (·.1.location)).Nodup := by
    have hsub := (fatesAll_nodes (initial forest) forest).map Node.location
    rw [endedIn, List.map_map] at hsub
    exact hplaces.sublist hsub
  have hm' : (m, o) ∈ (allIn (runFates forest)).filterMap outcome? :=
    List.mem_filterMap.mpr ⟨_, hm, rfl⟩
  have hn' : (n, o') ∈ (allIn (runFates forest)).filterMap outcome? :=
    List.mem_filterMap.mpr ⟨_, hn, rfl⟩
  exact congrArg Prod.snd (List.inj_on_of_nodup_map hnodup hm' hn' h)

end Instantiation

/-! ## Failed children -/

namespace Plugin

/-- A plugin that does not look at the children that failed. -/
def Blind (p : Plugin) : Prop := ∀ items failed, p.build ⟨items, failed⟩ = p.build ⟨items, []⟩

theorem blind_of_find? {kind : NodeKind} {type : String} {p : Plugin}
    (h : find? kind type = some p) : p = twoSidedPlugin ∨ p.Blind := by
  refine forall_of_find? (P := fun p => p = twoSidedPlugin ∨ p.Blind) ?_ ?_ ?_ h
  · simp only [viewPlugins, List.forall_mem_cons]
    refine ⟨?_, ?_, ?_, ?_, ?_, ?_, ?_, ?_, ?_, ?_, ?_, ?_, ?_, List.forall_mem_nil _⟩
    all_goals exact .inr fun _ _ => rfl
  · simp only [materialPlugins, List.forall_mem_cons]
    refine ⟨?_, .inl trivial, ?_, ?_, ?_, ?_, ?_, List.forall_mem_nil _⟩
    all_goals exact .inr fun _ _ => rfl
  · simp only [bodyPlugins, List.forall_mem_cons]
    refine ⟨?_, ?_, ?_, ?_, ?_, ?_, ?_, ?_, ?_, ?_, ?_, List.forall_mem_nil _⟩
    all_goals exact .inr fun _ _ => rfl

/-- A two-sided bsdf looks at no property, and only the number of its sides can be wrong. -/
theorem twoSided_trace (children : Attached) (s : Settings) :
    let count := children.bsdfs.length + children.failedCount .bsdf
    (twoSidedPlugin.build children s).2 =
      ⟨if count < 1 ∨ 2 < count then [.violation s.node (.sideCount count)] else [], []⟩ := by
  intro count
  have hforbid : ∀ bad : Bool, ((do
      Inspect.forbid bad (.sideCount count)
      return none : Inspect (Option Product)) s).2 =
      ⟨if bad then [.violation s.node (.sideCount count)] else [], []⟩ := by
    intro bad
    cases bad <;> rfl
  unfold twoSidedPlugin
  dsimp only
  generalize hsides : children.bsdfs = sides
  generalize hfailed : children.failedCount .bsdf = failed
  have hcount : count = sides.length + failed := by rw [← hsides, ← hfailed]
  rw [hcount] at hforbid ⊢
  split
  · rfl
  · rfl
  · rw [hforbid]
    simp

end Plugin

namespace Instantiation

open Fate

/-- What is found about the number of sides of a two-sided bsdf. -/
def sideReports (n : Node) (count : Nat) : List Finding :=
  if count < 1 ∨ 2 < count then [.problem (.violation n.ref (.sideCount count))] else []

/-- What is found about a node with failed children is what would be found without them. A
two-sided bsdf counts them. -/
structure Unhindered (n : Node) (inner : List Fate) : Prop where
  others : ¬ (n.kind = .bsdf ∧ n.type = "twosided") →
    reports n inner = reports n (inner.filter (!·.fails))
  twoSided : n.kind = .bsdf → n.type = "twosided" → ∃ rest,
    reports n inner = sideReports n
      ((attached inner).bsdfs.length + (attached inner).failedCount .bsdf) ++ rest ∧
    reports n (inner.filter (!·.fails)) = sideReports n (attached inner).bsdfs.length ++ rest

theorem attached_unfailed (inner : List Fate) :
    attached (inner.filter (!·.fails)) = ⟨(attached inner).items, []⟩ := by
  induction inner with
  | nil => rfl
  | cons f fs ih =>
    rw [attached_cons]
    cases hfails : f.fails with
    | true =>
      rw [List.filter_cons_of_neg (by simp [hfails]), ih, attachment?_of_fails hfails]
      rfl
    | false =>
      rw [List.filter_cons_of_pos (by simp [hfails]), attached_cons, ih,
        failure?_of_not_fails hfails]
      rfl

theorem inspect_blind {p : Plugin} (h : p.Blind) (n : Node) (items : List Attachment)
    (failed : List NodeKind) : inspect p n ⟨items, failed⟩ = inspect p n ⟨items, []⟩ := by
  unfold inspect
  rw [h items failed]
  rfl

theorem inspect_twoSided (n : Node) (items : List Attachment) : ∃ rest, ∀ failed,
    (inspect Plugin.twoSidedPlugin n ⟨items, failed⟩).2 = sideReports n
      ((⟨items, []⟩ : Attached).bsdfs.length + failed.count .bsdf) ++ rest := by
  refine ⟨(refusals n.kind [.bsdf] ⟨items, []⟩).map .problem ++
    (unused n.ref [] [] n.properties).map .unused, fun failed => ?_⟩
  have htrace := Plugin.twoSided_trace ⟨items, failed⟩ n.settings
  have hproblems := congrArg (List.map Finding.problem ∘ Trace.problems) htrace
  have hasked := congrArg Trace.asked htrace
  have hfindings : (inspect Plugin.twoSidedPlugin n ⟨items, failed⟩).2 =
      (Plugin.twoSidedPlugin.build ⟨items, failed⟩ n.settings).2.problems.map .problem ++
        (refusals n.kind [.bsdf] ⟨items, failed⟩).map .problem ++
        (unused n.ref (Plugin.twoSidedPlugin.build ⟨items, failed⟩ n.settings).2.asked []
          n.properties).map .unused := rfl
  rw [hfindings, hasked, List.append_assoc]
  exact congrArg₂ _ (hproblems.trans (apply_ite (List.map Finding.problem) _ _ _)) rfl

theorem reports_unhindered (n : Node) (inner : List Fate) : Unhindered n inner := by
  have hfound : ∀ p, Plugin.find? n.kind n.type = some p → p.kind = n.kind ∧ p.type = n.type := by
    intro p hp
    have hmatch := List.find?_some hp
    simpa only [Bool.and_eq_true, decide_eq_true_eq] using hmatch
  constructor
  · intro hother
    unfold reports
    rw [attached_unfailed]
    cases hp : Plugin.find? n.kind n.type with
    | none => rfl
    | some p =>
      rcases Plugin.blind_of_find? hp with rfl | hblind
      · obtain ⟨hkind, htype⟩ := hfound _ hp
        exact absurd ⟨hkind.symm, htype.symm⟩ hother
      · exact congrArg Prod.snd (inspect_blind hblind n _ _)
  · intro hkind htype
    have hp : Plugin.find? n.kind n.type = some Plugin.twoSidedPlugin := by
      rw [hkind, htype]
      rfl
    obtain ⟨rest, hrest⟩ := inspect_twoSided n (attached inner).items
    refine ⟨rest, ?_, ?_⟩
    · rw [reports, hp]
      exact hrest (attached inner).failed
    · rw [reports, hp, attached_unfailed]
      exact hrest []

/-! ## Runs -/

theorem run_sums (forest : List Node) :
    (run forest).2 = (declareAll Registry.empty forest).2.map .problem ++
        findingsAll (runFates forest) ∧
      (run forest).1.arena = storeAll Arena.empty (productsAll (runFates forest)) ∧
      (run forest).1.roots = (runFates forest).filterMap root? := by
  have hadds := buildAll_adds (initial forest) forest
  exact ⟨hadds.findings, hadds.arena, buildAll_roots (initial forest) forest⟩

/-- A finding about a node is found at the end of such a node, which is not aborted. -/
theorem run_about {forest : List Node} {n : Node} {x : Finding} (hx : x ∈ (run forest).2)
    (hn : x.About n) : ∃ m inner outcome, .ended m inner outcome ∈ allIn (runFates forest) ∧
      outcome ≠ .aborted ∧ x ∈ reports m inner ∧ x.About m := by
  rw [(run_sums forest).1] at hx
  rcases List.mem_append.mp hx with hx | hx
  · obtain ⟨p, hp, rfl⟩ := List.mem_map.mp hx
    obtain ⟨id, first, second, rfl⟩ := declareAll_problems _ forest p hp
    exact hn.elim
  · obtain ⟨q, p, hmem, rfl⟩ | ⟨m, inner, outcome, hmem, hend, hreport⟩ :=
      stems_of_mem_findingsAll _ x hx
    · obtain ⟨reason, rfl⟩ := runFates_right forest _ hmem
      exact hn.elim
    · exact ⟨m, inner, outcome, hmem, hend, hreport, about_of_mem_reports hreport hn⟩

/-- **Aborted nodes are silent, and failed children silence nobody.**  The fates of a forest have
its shape, and each of them is right: a node is aborted exactly when something cuts it short, and
fails exactly when it is not and has no product or a failed child.  What a run finds and makes is
the sum over the nodes that are not aborted, each counted once; so no finding is about an aborted
node, unless it is about another one at the same place.  What is cut short cuts short all around
it, and what is found about the other nodes does not depend on their failed children, except for
the sides of a two-sided bsdf. -/
theorem run_fates (forest : List Node) :
    let fs := runFates forest
    let all := allIn fs
    fs.map child = forest.map .nested ∧
    (∀ f ∈ all, f.Right (declared forest) all) ∧
    ((run forest).2 = (declareAll Registry.empty forest).2.map .problem ++ findingsAll fs ∧
      (run forest).1.arena = storeAll Arena.empty (productsAll fs) ∧
      (run forest).1.roots = fs.filterMap root?) ∧
    (∀ n, ∀ x ∈ (run forest).2, x.About n → ∃ m inner outcome,
      .ended m inner outcome ∈ all ∧ outcome ≠ .aborted ∧ x ∈ reports m inner ∧ x.About m) ∧
    (((preorder forest).map (·.location)).Nodup → ∀ n inner, .ended n inner .aborted ∈ all →
      ∀ x ∈ (run forest).2, ¬ x.About n) ∧
    (∀ f ∈ all, ∀ g ∈ f.all, g.cuts = true → f.cuts = true) ∧
    ∀ n inner outcome, .ended n inner outcome ∈ all → outcome ≠ .aborted → Unhindered n inner := by
  intro fs all
  have hright : ∀ f ∈ all, f.Right (declared forest) all := runFates_right forest
  refine ⟨fatesAll_child _ forest, hright, run_sums forest, fun n x hx hn => run_about hx hn,
    ?_, ?_, fun n inner _ _ _ => reports_unhindered n inner⟩
  · intro hplaces n inner hmem x hx hn
    obtain ⟨m, inner', outcome, hmem', hend, -, hm⟩ := run_about hx hn
    exact hend (outcome_eq_of_location hplaces hmem' hmem (hm.location_eq hn))
  · intro f hf
    exact cuts_of_mem_all f fun g hg => hright g (allIn_subset _ f hf hg)

/-- Two meshes without a file: the one that refers to nothing is silent about it, the one with a
material of an unknown type is not. -/
example : (run [
      ⟨0, .shape, "ply", none, none, ⟨1, 1⟩, [], [.reference ⟨"a", none, ⟨1, 9⟩⟩], []⟩,
      ⟨1, .shape, "ply", none, none, ⟨2, 1⟩, [],
        [.nested ⟨2, .bsdf, "velvet", none, none, ⟨2, 9⟩, [], [], []⟩], []⟩]).2 =
    [.problem (.unresolvedReference "a" ⟨1, 9⟩ .undeclared),
      .problem (.unknownType .bsdf "velvet" ⟨2, 9⟩),
      .problem (.missingProperty ⟨.shape, "ply", none, ⟨2, 1⟩⟩ "filename")] := by
  rfl

end Instantiation

end SceneGraph
