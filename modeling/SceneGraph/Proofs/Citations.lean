import SceneGraph.Proofs.Inspection
import SceneGraph.Proofs.SceneFaults
import SceneGraph.Proofs.Tracing
import SceneGraph.Proofs.Upkeep

/-!
# What objects cite

An object keeps the context of its node, and a sensor those of its samplers and films, to be
blamed for what is found with the whole scene.  No plugin makes up such a context
(`citing_of_find?`), so wherever an object is handed on, it cites nodes of the description; and
whatever is found on the way names elements (`run_traced`).
-/

namespace SceneGraph

open Markup

/-! ## Definitions -/

/-- The objects of a plugin cite its node and what the children cite. -/
def Plugin.Citing (p : Plugin) : Prop :=
  ∀ children s o, (p.build children s).1 = some (.object o) →
    ∀ r ∈ o.cited, r = s.node ∨ ∃ a ∈ children.items, r ∈ a.object.cited

/-- All that an object cites are elements. -/
def Object.Traced (params : Parameter.Table) (es : List Element) (o : Object) : Prop :=
  ∀ r ∈ o.cited, ∃ e ∈ es, r.Names params e

variable {params : Parameter.Table} {es : List Element}

/-! ## Plugins -/

namespace Plugin

open Inspect

/-- A plugin whose objects cite at most their own node. -/
theorem citing_of_own {p : Plugin}
    (h : ∀ children s, ∃ o, (p.build children s).1 = some (.object o) ∧ o.cited ⊆ [s.node]) :
    Citing p := by
  intro children s o ho r hr
  obtain ⟨o', ho', hcited⟩ := h children s
  rw [ho'] at ho
  obtain rfl := Product.object.inj (Option.some.inj ho)
  exact .inl (List.mem_singleton.mp (hcited hr))

theorem citing_sensorPlugin (type : String) (settings : Inspect SensorKind) :
    Citing (sensorPlugin type settings) := by
  intro children s o ho r hr
  obtain rfl := Product.object.inj (Option.some.inj ho)
  rcases List.mem_cons.mp hr with rfl | hr
  · exact .inl rfl
  right
  rcases List.mem_append.mp hr with hr | hr
  · obtain ⟨d, hd, rfl⟩ := List.mem_map.mp hr
    obtain ⟨a, ha, hsampler⟩ := List.mem_filterMap.mp hd
    refine ⟨a, ha, ?_⟩
    cases hobject : a.object <;> rw [hobject] at hsampler <;> cases hsampler
    exact List.mem_singleton_self _
  · obtain ⟨d, hd, rfl⟩ := List.mem_map.mp hr
    obtain ⟨a, ha, hfilm⟩ := List.mem_filterMap.mp hd
    refine ⟨a, ha, ?_⟩
    cases hobject : a.object <;> rw [hobject] at hfilm <;> cases hfilm
    exact List.mem_singleton_self _

theorem citing_viewPlugins : ∀ p ∈ viewPlugins, Citing p := by
  simp only [viewPlugins, List.forall_mem_cons]
  refine ⟨?_, ?_, ?_, citing_sensorPlugin _ _, citing_sensorPlugin _ _, ?_, ?_, ?_, ?_, ?_, ?_, ?_,
    ?_, by simp⟩
  rotate_left 3
  · exact citing_of_own fun children s => ⟨_, rfl, List.Subset.refl _⟩
  · exact citing_of_own fun children s => ⟨_, rfl, List.Subset.refl _⟩
  · exact citing_of_own fun children s => ⟨_, rfl, List.Subset.refl _⟩
  · exact citing_of_own fun children s => ⟨_, rfl, List.Subset.refl _⟩
  · exact citing_of_own fun children s => ⟨_, rfl, List.Subset.refl _⟩
  all_goals exact citing_of_own fun children s => ⟨_, rfl, List.nil_subset _⟩

/-- A bsdf or volume is no object yet. -/
theorem citing_materialPlugins : ∀ p ∈ materialPlugins, Citing p := by
  have hbsdf : ∀ type settings, Citing (bsdfPlugin type settings) := by
    intro type settings children s o ho
    have hbuild : ((bsdfPlugin type settings).build children s).1 =
      some (.bsdf (settings s).1) := rfl
    rw [hbuild] at ho
    cases ho
  have htwoSided : Citing twoSidedPlugin := by
    intro children s o ho
    obtain h | ⟨front, back, -, h⟩ := twoSidedPlugin_cases children s
    · rw [h] at ho
      cases ho
    · rw [h] at ho
      cases ho
  have hvolume : Citing homogeneousPlugin := by
    intro children s o ho
    obtain ⟨v, hv⟩ : ∃ v, (homogeneousPlugin.build children s).1 = some (.volume v) := ⟨_, rfl⟩
    rw [hv] at ho
    cases ho
  simp only [materialPlugins, List.forall_mem_cons]
  exact ⟨hbsdf _ _, htwoSided, hbsdf _ _, hbsdf _ _, hbsdf _ _, hbsdf _ _, hvolume, by simp⟩

theorem citing_bodyPlugins : ∀ p ∈ bodyPlugins, Citing p := by
  simp only [bodyPlugins, List.forall_mem_cons]
  refine ⟨?_, ?_, ?_, ?_, ?_, ?_, ?_, ?_, ?_, ?_, ?_, by simp⟩
  rotate_left 5
  · exact citing_of_own fun children s => ⟨_, rfl, List.Subset.refl _⟩
  · exact citing_of_own fun children s => ⟨_, rfl, List.Subset.refl _⟩
  · exact citing_of_own fun children s => ⟨_, rfl, List.Subset.refl _⟩
  · exact citing_of_own fun children s => ⟨_, rfl, List.Subset.refl _⟩
  · exact citing_of_own fun children s => ⟨_, rfl, List.Subset.refl _⟩
  · exact citing_of_own fun children s => ⟨_, rfl, List.Subset.refl _⟩
  all_goals exact citing_of_own fun children s => ⟨_, rfl, List.nil_subset _⟩

theorem citing_of_find? {kind : NodeKind} {type : String} {p : Plugin}
    (h : find? kind type = some p) : Citing p :=
  forall_of_find? citing_viewPlugins citing_materialPlugins citing_bodyPlugins h

end Plugin

namespace Instantiation

/-! ## Building -/

/-- Entries stand where elements stand, what they know cites elements, and all that was found
names elements. -/
structure Grounded (params : Parameter.Table) (es : List Element) (s : State) : Prop where
  places : ∀ e ∈ s.registry.entries, ∃ d ∈ es, d.location = e.location
  known : ∀ e ∈ s.registry.entries, ∀ o, e.status = .built o → o.Traced params es
  findings : ∀ f ∈ s.findings, f.Traced params es

theorem Grounded.add {s : State} (hs : Grounded params es s) {fs : List Finding}
    (hfs : ∀ f ∈ fs, f.Traced params es) : Grounded params es (s.add fs) :=
  ⟨hs.places, hs.known, List.forall_mem_append.mpr ⟨hs.findings, hfs⟩⟩

/-- A reference that is refused names its own position and that of an entry. -/
theorem Grounded.lookedUp {s : State} (hs : Grounded params es s) {id : String} {l : Location}
    (hl : ∃ e ∈ es, e.location = l) :
    Grounded params es (s.lookedUp (s.registry.resolve id l)) := by
  cases hresolve : s.registry.resolve id l with
  | ok target => exact hs
  | error p =>
    refine hs.add ?_
    intro f hf
    rw [List.mem_singleton.mp hf]
    unfold Registry.resolve at hresolve
    split at hresolve
    · cases hresolve
      exact Problem.traced_of_place rfl hl rfl nofun
    · next entry hfind =>
      split at hresolve
      · cases hresolve
      · cases hresolve
      · cases hresolve
        refine Problem.traced_of_places (fun m hm => ?_) rfl nofun
        rcases List.mem_cons.mp hm with rfl | hm
        · exact hl
        · rw [List.mem_singleton.mp hm]
          exact hs.places entry (List.mem_of_find?_eq_some hfind)

/-- What is found about a node names the node, a property or a child. -/
theorem inspect_traced {n : Node} (hn : n.From params es) {children : Attached}
    (hplaces : ∀ a ∈ children.items, ∃ c ∈ n.children, c.location = a.location) {p : Plugin}
    (hp : Plugin.find? n.kind n.type = some p) :
    ∀ f ∈ (inspect p n children).2, f.Traced params es := by
  intro f hf
  rcases inspect_remarks children hp hf with ⟨q, rfl, hq⟩ | ⟨u, rfl, hu⟩
  · cases hq with
    | broken rule => exact Problem.traced_of_node hn.named rfl rfl nofun
    | missing name => exact Problem.traced_of_node hn.named rfl rfl nofun
    | property expected found hproperty =>
      obtain ⟨-, hplace⟩ := hn.properties _ (List.mem_of_find?_eq_some hproperty)
      exact Problem.traced_of_place rfl hplace rfl nofun
    | child name expected found hl =>
      obtain ⟨a, ha, rfl⟩ := List.mem_map.mp hl
      obtain ⟨c, hc, hlocation⟩ := hplaces a ha
      refine Problem.traced_of_place rfl ?_ rfl nofun
      rw [← hlocation]
      exact hn.children c hc
  · have hnode : u.problem.node? = some n.ref := congrArg some hu
    refine Problem.traced_of_node hn.named ?_ hnode nofun
    show [u.node.location] = _
    rw [hu]

/-- The object of a node cites the node and what its children cite. -/
theorem finish_traced {n : Node} (hn : n.From params es) {children : Attached}
    (hitems : ∀ a ∈ children.items, a.object.Traced params es) {s : State} {o : Object}
    (ho : (finish n children s).1 = .built o) : o.Traced params es := by
  obtain ⟨-, h⟩ | ⟨p, fs, -, -, h⟩ | ⟨p, product, fs, hp, hinspect, h⟩ := finish_cases n children s
  · rw [h] at ho
    cases ho
  · rw [h] at ho
    cases ho
  · rw [h] at ho
    dsimp only at ho
    split at ho
    · obtain rfl := Outcome.built.inj ho
      cases product with
      | bsdf b => exact List.forall_mem_nil _
      | volume v => exact List.forall_mem_nil _
      | object o =>
        have hbuild : (p.build children n.settings).1 = some (.object o) :=
          congrArg Prod.fst hinspect
        intro r hr
        rcases Plugin.citing_of_find? hp children n.settings o hbuild r hr with rfl | ⟨a, ha, hr⟩
        · exact hn.named
        · exact hitems a ha r hr
    · cases ho

theorem finish_grounded {n : Node} (hn : n.From params es) {children : Attached}
    (hplaces : ∀ a ∈ children.items, ∃ c ∈ n.children, c.location = a.location) {s : State}
    (hs : Grounded params es s) : Grounded params es (finish n children s).2 := by
  obtain ⟨-, h⟩ | ⟨p, fs, hp, hinspect, h⟩ | ⟨p, product, fs, hp, hinspect, h⟩ :=
    finish_cases n children s
  · rw [h]
    refine hs.add fun f hf => ?_
    rw [List.mem_singleton.mp hf]
    obtain ⟨e, he, hnames⟩ := hn.named
    exact Problem.traced_of_place rfl ⟨e, he, hnames.location⟩ rfl nofun
  · rw [h]
    have hadd := hs.add (inspect_traced hn hplaces hp)
    rw [hinspect] at hadd
    exact hadd
  · have hadd := hs.add (inspect_traced hn hplaces hp)
    rw [hinspect] at hadd
    rw [h]
    exact ⟨hadd.places, hadd.known, hadd.findings⟩

theorem grounded_upkeep (params : Parameter.Table) (es : List Element) :
    Upkeep (fun _ => True) (Node.From params es) (Object.Traced params es)
      (Grounded params es) where
  earlier := fun _ _ => trivial
  known := fun hs he => hs.known _ he _
  lookedUp := fun hs hn hr => hs.lookedUp (hn.children _ hr)
  finish := by
    intro s n children hs hn hitems _
    exact ⟨finish_grounded hn (fun a ha => (hitems a ha).place) hs,
      fun o ho => finish_traced hn (fun a ha => (hitems a ha).object) ho⟩
  publish := by
    intro s id index outcome hs houtcome
    refine ⟨fun e he => ?_, fun e he o ho => ?_, ?_⟩
    · obtain ⟨e', he', hlocation, -⟩ := mem_publish_entries he
      rw [hlocation]
      exact hs.places e' he'
    · obtain ⟨e', he', -, hstatus | hstatus⟩ := mem_publish_entries he
      · exact hs.known e' he' o (hstatus ▸ ho)
      · exact houtcome o (built_of_status (hstatus ▸ ho))
    · rw [publish_findings]
      exact hs.findings

theorem initial_grounded {forest : List Node} (hforest : ∀ n ∈ postorder forest, n.From params es) :
    Grounded params es (initial forest) := by
  have hplaces : ∀ n ∈ preorder forest, ∃ e ∈ es, e.location = n.location := by
    intro n hn
    obtain ⟨e, he, hnames⟩ := (hforest n ((preorder_perm forest).subset hn)).named
    exact ⟨e, he, hnames.location⟩
  have hvisited := fun n hn => hplaces n (opened_subset_preorder forest hn)
  refine ⟨fun e he => ?_, fun e he o ho => ?_, fun f hf => ?_⟩
  · obtain ⟨n, hn, hdeclared⟩ := exists_of_mem_declared he
    obtain ⟨id, -, rfl⟩ := Option.map_eq_some_iff.mp hdeclared
    exact hvisited n hn
  · rw [pending_of_mem_declared he] at ho
    cases ho
  · obtain ⟨p, hp, rfl⟩ := List.mem_map.mp hf
    obtain ⟨n, hn, owner, howner, id, -, -, rfl⟩ := declared_problems hp
    refine Problem.traced_of_places (fun l hl => ?_) rfl nofun
    rcases List.mem_cons.mp hl with rfl | hl
    · exact hvisited owner howner
    · rw [List.mem_singleton.mp hl]
      exact hplaces n (repeats_subset_preorder forest hn)

/-- What is found while a forest is built names elements, and so do the objects at its top. -/
theorem run_traced {forest : List Node} (hforest : ∀ n ∈ postorder forest, n.From params es) :
    (∀ f ∈ (run forest).2, f.Traced params es) ∧
      ∀ r ∈ (run forest).1.roots,
        r.object.Traced params es ∧ ∃ e ∈ es, r.node.Names params e := by
  obtain ⟨hend, hroots⟩ := (grounded_upkeep params es).buildAll_upkeep forest
    (initial_grounded hforest) hforest trivial
  rw [run_eq]
  refine ⟨hend.findings, fun r hr => ?_⟩
  obtain ⟨hobject, n, hn, hnode⟩ := hroots r hr
  refine ⟨hobject, ?_⟩
  rw [hnode]
  refine (hforest n (List.mem_flatMap.mpr ⟨n, hn, ?_⟩)).named
  rw [Node.postorder_eq]
  exact List.mem_append_right _ (List.mem_singleton_self _)

end Instantiation

end SceneGraph
