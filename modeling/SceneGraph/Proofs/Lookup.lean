import SceneGraph.Proofs.Borrowing
import SceneGraph.Proofs.Completeness
import SceneGraph.Proofs.Contributions
import SceneGraph.Proofs.Origins
import SceneGraph.Proofs.PluginTree
import SceneGraph.Scene.Query

/-!
# Looking up what a scene holds

No two parts of a loaded scene have the same id, since no two nodes have, so the first match for
an id is the only one and a lookup is exact (`Scene.indexed_of_nodup`).  The same holds of the
bsdfs that shapes refer to by their id: the shape of an element has the bsdf that a lookup of the
id finds (`wears_of_succeeds`).  `text_indexed` says both of every scene that is loaded.
-/

namespace SceneGraph

open Markup

/-! ## Definitions -/

/-- The ids of all that a scene holds for itself. -/
def Scene.ids (scene : Scene) : List String :=
  scene.integrator.toList.filterMap (·.id) ++ scene.sensors.filterMap (·.id) ++
    scene.shapes.filterMap (·.id) ++ scene.emitters.filterMap (·.id) ++
    scene.bsdfs.filterMap (·.id) ++ scene.volumes.filterMap (·.id)

/-- No id is there twice, and every id leads to what has it. -/
structure Scene.Indexed (scene : Scene) : Prop where
  distinct : scene.ids.Nodup
  sensor : ∀ s ∈ scene.sensors, ∀ id, s.id = some id → scene.sensor? id = some s
  shape : ∀ s ∈ scene.shapes, ∀ id, s.id = some id → scene.shape? id = some s
  emitter : ∀ e ∈ scene.emitters, ∀ id, e.id = some id → scene.emitter? id = some e
  bsdf : ∀ (i : Nat) e, scene.bsdfs[i]? = some e → ∀ id, e.id = some id →
    scene.bsdfById? id = some ⟨i⟩

/-- A node with the tag of its element and with all references in it, their ids substituted. -/
structure Node.Refers (params : Parameter.Table) (e : Element) (n : Node) : Prop where
  tag : e.tag = n.kind.name
  references : ∀ c ∈ e.children, c.tag = "ref" → ∃ r, Child.reference r ∈ n.children ∧
    Attribute.value? params c "id" = .of (some r.id)

/-! ## Lists without a repeated id -/

section Lists

variable {α : Type} {id? : α → Option String} {xs : List α} (h : (xs.filterMap id?).Nodup)

include h

theorem find?_of_ids_nodup {x : α} (hx : x ∈ xs) {id : String} (hid : id? x = some id) :
    xs.find? (fun y => id? y = some id) = some x := by
  cases hfind : xs.find? fun y => id? y = some id with
  | none => exact absurd (decide_eq_true hid) (List.find?_eq_none.mp hfind x hx)
  | some y =>
    have hy : id? y = some id := by simpa using List.find?_some hfind
    rw [eq_of_ids_nodup h (List.mem_of_find?_eq_some hfind) hx hy hid]

theorem findIdx?_of_ids_nodup {i : Nat} {x : α} (hx : xs[i]? = some x) {id : String}
    (hid : id? x = some id) : xs.findIdx? (fun y => id? y = some id) = some i := by
  obtain ⟨hi, rfl⟩ := List.getElem?_eq_some_iff.mp hx
  refine List.findIdx?_eq_some_iff_getElem.mpr ⟨hi, decide_eq_true hid, fun j hj => ?_⟩
  intro hearlier
  have hpairs := List.pairwise_iff_getElem.mp (List.pairwise_filterMap.mp h)
  exact hpairs j i (Nat.lt_trans hj hi) hi hj id (of_decide_eq_true hearlier) id hid rfl

end Lists

/-- What has equal ids in the same order has the same ids. -/
theorem filterMap_eq_of_map_eq {α β : Type} {f : α → Option String} {g : β → Option String}
    {xs : List α} {ys : List β} (h : xs.map f = ys.map g) : xs.filterMap f = ys.filterMap g := by
  have hreduced := congrArg (List.filterMap id) h
  rwa [List.filterMap_map, List.filterMap_map] at hreduced

theorem Scene.indexed_of_nodup {scene : Scene} (h : scene.ids.Nodup) : scene.Indexed := by
  have hall := h
  simp only [ids, List.nodup_append] at h
  obtain ⟨⟨⟨⟨⟨-, hsensors, -⟩, hshapes, -⟩, hemitters, -⟩, hbsdfs, -⟩, -⟩ := h
  exact {
    distinct := hall
    sensor := fun s hs id hid => find?_of_ids_nodup hsensors hs hid
    shape := fun s hs id hid => find?_of_ids_nodup hshapes hs hid
    emitter := fun e he id hid => find?_of_ids_nodup hemitters he hid
    bsdf := fun i e he id hid => by
      rw [bsdfById?, findIdx?_of_ids_nodup hbsdfs he hid]
      rfl }

/-! ## Ids of nodes -/

/-- Ids that differ over all nodes differ over the nodes of several kinds. -/
theorem nodup_ids_of_kinds {nodes : List Node} (h : (nodes.filterMap (·.id)).Nodup)
    {kinds : List NodeKind} (hkinds : kinds.Nodup) :
    (kinds.flatMap fun k => (nodes.filter (·.kind = k)).filterMap (·.id)).Nodup := by
  rw [List.nodup_flatMap]
  refine ⟨fun k _ => h.sublist (List.filter_sublist.filterMap _), hkinds.imp fun {j k} hne => ?_⟩
  refine List.disjoint_left.mpr fun id hj hk => ?_
  obtain ⟨m, hm, hmid⟩ := List.mem_filterMap.mp hj
  obtain ⟨n, hn, hnid⟩ := List.mem_filterMap.mp hk
  obtain ⟨hm, hmkind⟩ := List.mem_filter.mp hm
  obtain ⟨hn, hnkind⟩ := List.mem_filter.mp hn
  obtain rfl := eq_of_ids_nodup h hm hn hmid hnid
  exact hne ((of_decide_eq_true hmkind).symm.trans (of_decide_eq_true hnkind))

theorem sublist_postorder (forest : List Node) : forest.Sublist (postorder forest) := by
  induction forest with
  | nil => exact List.Sublist.refl _
  | cons n ns ih =>
    rw [postorder, List.flatMap_cons, Node.postorder_eq]
    exact (List.sublist_append_right _ [n]).append ih

/-- What has the ids of the nodes of a kind has some of those of more nodes. -/
theorem ids_sublist {ms ns : List Node} (hsub : ms.Sublist ns) {k : NodeKind} {α : Type}
    {id? : α → Option String} {xs : List α}
    (h : xs.map id? = (ms.filter (·.kind = k)).map (·.id)) :
    (xs.filterMap id?).Sublist ((ns.filter (·.kind = k)).filterMap (·.id)) := by
  rw [filterMap_eq_of_map_eq h]
  exact (hsub.filter _).filterMap _

/-- The scene of a run without a problem has the ids of nodes, each at most once. -/
theorem Assembly.assemble_ids_nodup {strict : Bool} {version : Version} {params : Parameter.Table}
    {forest : List Node} {scene : Scene}
    (hrun : Finding.Passes strict (Instantiation.run forest).2)
    (h : assemble version params (Instantiation.run forest).1 = .ok scene) :
    scene.ids.Nodup := by
  obtain ⟨hroots, hrecords⟩ := Instantiation.run_silent hrun.silent
  obtain ⟨hgains, hbsdfs, hvolumes, -⟩ := assemble_gains hroots h
  have hclean := by
    have hpasses := hrun
    rw [Instantiation.run_eq] at hpasses
    exact Instantiation.initial_clean
      (hpasses.of_prefix (Instantiation.buildAll_findings forest _)).silent
  have hkinds : [NodeKind.integrator, .sensor, .shape, .emitter, .bsdf, .volume].Nodup := by
    decide
  refine (nodup_ids_of_kinds (Instantiation.postorder_ids_nodup hclean.unrepeated) hkinds).sublist
    ?_
  have hshapes : scene.shapes.map (·.id) = (forest.filter (·.kind = .shape)).map (·.id) := by
    have hfirst := congrArg (List.map Prod.fst) hgains.shapes
    simpa [Parts.empty, List.map_map, Function.comp_def] using hfirst
  have htop := sublist_postorder forest
  have hall := List.Sublist.refl (postorder forest)
  simp only [List.flatMap_cons, List.flatMap_nil, List.append_nil, Scene.ids, List.append_assoc]
  exact (ids_sublist htop hgains.integrator).append <|
    (ids_sublist htop hgains.sensors).append <| (ids_sublist htop hshapes).append <|
    (ids_sublist htop hgains.emitters).append <|
    (ids_sublist hall (by rw [hbsdfs]; exact hrecords.bsdfs)).append
    (ids_sublist hall (by rw [hvolumes]; exact hrecords.volumes))

/-! ## References that are read -/

namespace Node

variable {params : Parameter.Table}

/-- A node that mirrors its element has all references in it. -/
theorem Mirrors.refers {e : Element} {n : Node} (h : n.Mirrors params e) : n.Refers params e := by
  refine ⟨(NodeKind.name_of_ofTag? h.kind).symm, fun c hc htag => ?_⟩
  have hchild : c ∈ e.children.filter (·.isChild) :=
    List.mem_filter.mpr ⟨hc, by simp [Element.isChild, htag]⟩
  obtain ⟨child, hmem, hof⟩ := exists_of_forall₂ h.children.flip c hchild
  cases child with
  | nested m =>
    have hkind : NodeKind.ofTag? c.tag = some m.kind := Node.Of.kind hof
    rw [htag] at hkind
    cases hkind
  | reference r => exact ⟨r, hmem, Reference.Of.id hof⟩

/-- A forest that is read in silence has all references of its elements. -/
theorem readForest_refers (es : List Element) (h : (readForest params 0 es).problems = []) :
    List.Forall₂ (Refers params) (es.filter fun e => (NodeKind.ofTag? e.tag).isSome)
      (readForest params 0 es).value :=
  (readForest_mirrorsForest h).roots.imp fun _ _ hmirrors => hmirrors.refers

end Node

/-! ## Bsdfs of shapes -/

namespace Assembly

open Instantiation (Root)

/-- A draft that becomes a shape has the bsdf of the shape. -/
theorem bsdfs_of_shape {d : ShapeDraft} {s : Shape} (h : (shape d).value? = some s) :
    d.bsdfs = [s.bsdf] := by
  unfold shape at h
  obtain ⟨⟨bsdf, emitter⟩, hparts, h⟩ := Checked.value?_bind h
  obtain ⟨hbsdf, -⟩ := Checked.value?_both hparts
  obtain rfl := Checked.value?_of h
  unfold shapeBsdf at hbsdf
  split at hbsdf
  · next b hsingle => rw [hsingle, Checked.value?_of hbsdf]
  · cases hbsdf
  · cases hbsdf

/-- What holds of the shapes among the roots holds of those of the scene. -/
theorem forall₂_shapes {es : List Element} {roots : List Root} {R : Element → ShapeDraft → Prop}
    (h : List.Forall₂ (fun e root => e.tag = root.object.kind.name ∧
      ∀ d, root.object = .shape d → R e d) es roots) : ∀ parts : Parts,
    (parts.addAll roots).2 = [] →
    List.Forall₂ (fun e s => ∃ d, R e d ∧ (shape d).value? = some s)
      (es.filter (·.tag = "shape")) (roots.filterMap Root.shape?) := by
  induction h with
  | nil => exact fun _ _ => .nil
  | @cons e root es roots hroot _ ih =>
    intro parts hsilent
    rw [Parts.addAll] at hsilent
    obtain ⟨hadd, hrest⟩ := List.append_eq_nil_iff.mp hsilent
    obtain ⟨htag, hdraft⟩ := hroot
    have htail := ih _ hrest
    rw [List.filter_cons, List.filterMap_cons]
    unfold Root.shape?
    cases hobject : root.object with
    | shape d =>
      rw [hobject] at htag
      rw [Parts.add, hobject] at hadd
      obtain ⟨s, hs, -⟩ := shape_silent hadd
      simp only [htag, hs]
      exact .cons ⟨d, hdraft d hobject, hs⟩ htail
    | _ =>
      rw [hobject] at htag
      simp only [htag]
      exact htail

end Assembly

/-! ## Elements and their shapes -/

/-- What relates two lists through a third. -/
theorem forall₂_comp {α β γ : Type} {R : α → β → Prop} {S : β → γ → Prop} {T : α → γ → Prop}
    (hstep : ∀ a b c, R a b → S b c → T a c) {xs : List α} {ys : List β} {zs : List γ}
    (h : List.Forall₂ R xs ys) (h' : List.Forall₂ S ys zs) : List.Forall₂ T xs zs := by
  induction h generalizing zs with
  | nil =>
    cases h'
    exact .nil
  | cons hab _ ih =>
    cases h' with
    | cons hbc hrest => exact .cons (hstep _ _ _ hab hbc) (ih hrest)

/-- Every element of a kind has its node. -/
theorem Mirrors.exists_node {params : Parameter.Table} {nodes : List Node} {es : List Element}
    (h : Mirrors params nodes es) {k : NodeKind} {e : Element} (he : e ∈ es)
    (htag : e.tag = k.name) : ∃ n ∈ nodes, n.kind = k ∧ n.label = e.label params := by
  have hmem : e.label params ∈ (es.filter (·.tag = k.name)).map (Element.label params) :=
    List.mem_map_of_mem (List.mem_filter.mpr ⟨he, decide_eq_true htag⟩)
  rw [← h k] at hmem
  obtain ⟨n, hn, hlabel⟩ := List.mem_map.mp hmem
  obtain ⟨hn, hkind⟩ := List.mem_filter.mp hn
  exact ⟨n, hn, of_decide_eq_true hkind, hlabel⟩

namespace Load

/-- An element with a reference to a bsdf of the description. -/
structure RefersToBsdf (options : Options) (root e : Element) (id : String) : Prop where
  reference : ∃ c ∈ e.children, c.tag = "ref" ∧ idOf options root c = .of (some id)
  target : ∃ d ∈ Element.nodesAll root.children, d.tag = "bsdf" ∧
    idOf options root d = .of (some id)

/-- The drafts of elements hold the slots to whose ids the elements refer. -/
theorem drafts_of_succeeds {options : Options} {root : Element} {scene : Scene}
    (h : Succeeds options root scene) :
    List.Forall₂ (fun e root' => e.tag = root'.object.kind.name ∧
        ∀ d, root'.object = .shape d → ∀ id, RefersToBsdf options root e id →
          ∃ b ∈ d.bsdfs, (Instantiation.run (forest options root).value).1.arena.id? (.bsdf b) =
            some (some id))
      (root.children.filter fun e => (NodeKind.ofTag? e.tag).isSome)
      (Instantiation.run (forest options root).value).1.roots := by
  obtain ⟨-, hmirrors⟩ := Node.readForest_mirrors h.nodes
  have hroots := (Instantiation.run_silent (Finding.silent_of_problems h.objects)).1
  have hborrows := Instantiation.run_borrows h.objects
  refine forall₂_comp ?_ (Node.readForest_refers root.children h.nodes)
    (hroots.mp (fun _ _ hfulfils hborrow => And.intro hfulfils hborrow) hborrows)
  rintro e n root' hrefers ⟨hfulfils, hborrow⟩
  refine ⟨by rw [hrefers.tag, hfulfils.object.kind_eq]; rfl, fun d hd id hid => ?_⟩
  obtain ⟨c, hc, htag, hcid⟩ := hid.reference
  obtain ⟨r, hr, hrid⟩ := hrefers.references c hc htag
  obtain ⟨target, htarget, hbsdf, htid⟩ := hid.target
  obtain ⟨m, hm, hkind, hlabel⟩ := hmirrors.exists_node (k := .bsdf) htarget hbsdf
  have hsame : Checked.of (some r.id) = .of (some id) := hrid.symm.trans hcid
  obtain rfl : r.id = id := by simpa [Checked.of] using hsame
  have hmid : Checked.of m.id = .of (some r.id) := (congrArg Label.id hlabel).trans htid
  exact hborrow d hd r hr m hm hkind (by simpa [Checked.of] using hmid)

end Load

/-! ## Top theorem -/

namespace Load

/-- The shape has the bsdf that is found under every id of a bsdf to which the element refers. -/
def Wears (options : Options) (root : Element) (scene : Scene) (e : Element) (s : Shape) : Prop :=
  ∀ id, RefersToBsdf options root e id →
    scene.bsdfById? id = some s.bsdf ∧ scene.bsdfId? s = some id

theorem wears_of_succeeds {options : Options} {root : Element} {scene : Scene}
    (h : Succeeds options root scene) (hindexed : scene.Indexed) :
    List.Forall₂ (Wears options root scene) (root.children.filter (·.tag = "shape"))
      scene.shapes := by
  obtain ⟨version, -, hassemble⟩ := h.scene
  obtain ⟨⟨hsilent, -⟩, hscene⟩ := Assembly.assemble_ok hassemble
  have hbsdfs : scene.bsdfs = (Instantiation.run (forest options root).value).1.arena.bsdfs := by
    rw [hscene]
  have hshapes : scene.shapes = (Instantiation.run (forest options root).value).1.roots.filterMap
      Instantiation.Root.shape? := by
    rw [hscene, Assembly.Parts.addAll_eq]
    rfl
  have hworn := Assembly.forall₂_shapes (drafts_of_succeeds h) Assembly.Parts.empty
    (Assembly.eq_nil_of_distinct hsilent)
  have hplugin : (root.children.filter fun e => (NodeKind.ofTag? e.tag).isSome).filter
      (·.tag = "shape") = root.children.filter (·.tag = "shape") :=
    filter_plugin root.children .shape
  rw [hplugin, ← hshapes] at hworn
  refine hworn.imp ?_
  rintro e s ⟨d, hd, hs⟩ id hid
  obtain ⟨b, hb, hslot⟩ := hd id hid
  rw [Assembly.bsdfs_of_shape hs] at hb
  obtain rfl := List.mem_singleton.mp hb
  rw [Arena.id?, ← hbsdfs] at hslot
  obtain ⟨entry, hentry, hentryId⟩ := Option.map_eq_some_iff.mp hslot
  refine ⟨hindexed.bsdf _ entry hentry id hentryId, ?_⟩
  rw [Scene.bsdfId?, hentry, Option.bind_some, hentryId]

/-- **Ids lead to what has them.**  In a scene that is loaded no id is there twice, so looking up an
id finds the one sensor, shape, emitter or bsdf that has it; and the shape of an element with a
reference to the id of a bsdf has the bsdf that is found under it. -/
theorem text_indexed (options : Options) (source : String) (scene : Scene)
    (h : (text options source).result = .ok scene) :
    ∃ root, read source = .ok root ∧ scene.Indexed ∧
      List.Forall₂ (Wears options root scene) (root.children.filter (·.tag = "shape"))
        scene.shapes := by
  obtain ⟨root, hread, hload⟩ := text_ok_iff.mp h
  obtain ⟨version, -, hassemble⟩ := hload.scene
  have hindexed := Scene.indexed_of_nodup (Assembly.assemble_ids_nodup hload.objects hassemble)
  exact ⟨root, hread, hindexed, wears_of_succeeds hload hindexed⟩

/-- A description with a bsdf that two shapes share. -/
def sharedMetal : String :=
  "<scene version=\"2.1.0\"><sensor type=\"orthographic\"><sampler type=\"independent\"/>" ++
    "<film type=\"hdrfilm\"/></sensor><bsdf type=\"conductor\" id=\"m\"/>" ++
    "<shape type=\"cube\" id=\"a\"><ref id=\"m\"/></shape>" ++
    "<shape type=\"disk\"><ref id=\"m\"/></shape></scene>"

theorem text_indexed_sharedMetal :
    ∃ scene root, (text ⟨[], false⟩ sharedMetal).result = .ok scene ∧ read sharedMetal = .ok root ∧
      scene.ids = ["a", "m"] ∧ scene.shapes.map (·.bsdf) = [⟨0⟩, ⟨0⟩] ∧ scene.Indexed ∧
      List.Forall₂ (Wears ⟨[], false⟩ root scene) (root.children.filter (·.tag = "shape"))
        scene.shapes := by
  have hload : (text ⟨[], false⟩ sharedMetal).result.toOption.any (fun scene =>
      scene.ids == ["a", "m"] && scene.shapes.map (·.bsdf) == [⟨0⟩, ⟨0⟩]) = true := by
    decide +kernel
  obtain ⟨scene, hscene, hholds⟩ := exists_of_any hload
  obtain ⟨hids, hshapes⟩ := Bool.and_eq_true_iff.mp hholds
  obtain ⟨root, hread, hindexed, hwears⟩ := text_indexed ⟨[], false⟩ sharedMetal scene hscene
  exact ⟨scene, root, hscene, hread, eq_of_beq hids, eq_of_beq hshapes, hindexed, hwears⟩

end Load

end SceneGraph
