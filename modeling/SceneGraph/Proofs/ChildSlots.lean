import Mathlib.Data.List.Flatten
import SceneGraph.Proofs.Mismatches
import SceneGraph.Proofs.Places
import SceneGraph.Proofs.Success
import SceneGraph.Proofs.Suppression

/-!
# What becomes of the children of a node

In a run over the nodes of a document, a child of a node that is looked at is either fine or
reported once, where it stands (`run_mismatches`), and a sensor or a shape gets all children of
the kinds that it keeps, in document order (`sensor_of_find?`, `shape_of_find?`).

A run reports what the ends of its nodes report, each once (`findingsAll_perm`), and nodes report
mismatches only where something stands that they hold.  These places are all different, so what is
reported where a child stands is what its own node reports there.
-/

namespace SceneGraph

/-! ## Definitions -/

namespace Instantiation

namespace Fate

/-- The object that a child gives to its node. -/
def object? : Fate → Option Object
  | omitted _ => none
  | answered _ target => given? target
  | ended _ _ outcome => outcome.object?

/-- What is found at its end. -/
def own : Fate → List Finding
  | omitted _ => []
  | answered _ target => (refused? target).toList.map .problem
  | ended n inner outcome => if outcome = .aborted then [] else reports n inner

/-- Where all that its node holds stands. -/
def places : Fate → List Location
  | ended n _ _ => n.places
  | _ => []

/-- The objects of a kind among those that children give, in document order. -/
def objectsOf (k : NodeKind) (inner : List Fate) : List Object :=
  (inner.filterMap object?).filter (·.kind = k)

/-- A node that ends with an object keeps what was made for it. -/
def Kept : Fate → Prop
  | ended n inner outcome => ∀ o, outcome = .built o →
    ∃ product arena, makes n inner = some product ∧ (Arena.store arena n.id product).1 = o
  | _ => True

end Fate

end Instantiation

/-! ## Lists -/

/-- Where all keys are different, what depends on a key is all at the element that has it. -/
theorem flatMap_eq_of_key {α β κ : Type} {key : α → List κ} {g : α → List β} {x : α} {k : κ}
    {xs : List α} (hnodup : (xs.flatMap key).Nodup) (hx : x ∈ xs) (hk : k ∈ key x)
    (hother : ∀ y ∈ xs, k ∉ key y → g y = []) : xs.flatMap g = g x := by
  induction xs with
  | nil => cases hx
  | cons y ys ih =>
    rw [List.flatMap_cons] at hnodup ⊢
    obtain ⟨-, hys, hdisjoint⟩ := List.nodup_append.mp hnodup
    obtain ⟨hy, hothers⟩ := List.forall_mem_cons.mp hother
    rcases List.mem_cons.mp hx with rfl | hx
    · have hrest : ys.flatMap g = [] := by
        refine List.flatMap_eq_nil_iff.mpr fun z hz => hothers z hz fun hkz => ?_
        exact hdisjoint k hk k (List.mem_flatMap.mpr ⟨z, hz, hkz⟩) rfl
      rw [hrest, List.append_nil]
    · have hhead : g y = [] :=
        hy fun hky => hdisjoint k hky k (List.mem_flatMap.mpr ⟨x, hx, hk⟩) rfl
      rw [hhead, List.nil_append, ih hys hx hothers]

theorem eq_toList_of_perm {α : Type} {xs : List α} {x? : Option α} (h : xs.Perm x?.toList) :
    xs = x?.toList := by
  cases x? with
  | none => exact h.eq_nil
  | some x => exact List.perm_singleton.mp h

/-- The objects of a kind, from what they hold. -/
theorem map_filterMap_kind {β : Type} {got? : Object → Option β} {make : β → Object} {k : NodeKind}
    (h : ∀ o, (got? o).map make = if o.kind = k then some o else none) (os : List Object) :
    (os.filterMap got?).map make = os.filter (·.kind = k) := by
  rw [List.map_filterMap, ← List.filterMap_eq_filter]
  refine List.filterMap_congr fun o _ => ?_
  rw [h, Option.guard]
  simp

/-! ## Plugins -/

namespace Plugin

/-- All that a sensor plugin makes is a sensor with the samplers and films of its node. -/
theorem sensor_of_find? {kind : NodeKind} {type : String} {p : Plugin}
    (h : find? kind type = some p) : p.kind = .sensor → ∀ children s, ∃ d,
      (p.build children s).1 = some (.object (.sensor d)) ∧ d.samplers = children.samplers ∧
        d.films = children.films := by
  have hsensors : viewPlugins.filter (·.kind = .sensor) =
      [sensorPlugin "perspective" perspectiveSettings,
        sensorPlugin "orthographic" (pure .orthographic)] := rfl
  have hmaterial : ∀ p ∈ materialPlugins, p.kind ≠ .sensor := by decide
  have hbody : ∀ p ∈ bodyPlugins, p.kind ≠ .sensor := by decide
  refine forall_of_find? (P := fun p => p.kind = .sensor → ∀ children s, ∃ d,
      (p.build children s).1 = some (.object (.sensor d)) ∧ d.samplers = children.samplers ∧
        d.films = children.films) ?_ ?_ ?_ h
  · intro p hp hkind children s
    have hmem : p ∈ viewPlugins.filter (·.kind = .sensor) :=
      List.mem_filter.mpr ⟨hp, decide_eq_true hkind⟩
    rw [hsensors, List.mem_pair] at hmem
    rcases hmem with rfl | rfl
    · exact ⟨_, rfl, rfl, rfl⟩
    · exact ⟨_, rfl, rfl, rfl⟩
  · exact fun p hp hkind => absurd hkind (hmaterial p hp)
  · exact fun p hp hkind => absurd hkind (hbody p hp)

theorem shape_of_find? {kind : NodeKind} {type : String} {p : Plugin}
    (h : find? kind type = some p) (hkind : p.kind = .shape) (children : Attached)
    (s : Settings) : ∃ d, (p.build children s).1 = some (.object (.shape d)) ∧
      d.bsdfs = children.bsdfs ∧ d.emitters = children.emitters := by
  obtain ⟨type, settings, rfl, -⟩ := ofShape_of_find? h hkind
  exact ⟨_, rfl, rfl, rfl⟩

end Plugin

namespace Instantiation

open Fate

/-! ## Fates -/

namespace Fate

theorem attachment?_eq (f : Fate) : f.attachment? = f.object?.map f.child.attach := by
  cases f <;> rfl

/-- A child holds the object of its fate, in document order. -/
theorem attached_objects (inner : List Fate) :
    (attached inner).items.map (·.object) = inner.filterMap object? := by
  rw [attached, List.map_filterMap]
  refine List.filterMap_congr fun f _ => ?_
  rw [f.attachment?_eq, Option.map_map]
  cases f.object? with
  | none => rfl
  | some o => exact congrArg some (f.child.attach_object o)

theorem attached_kind {β : Type} {got? : Object → Option β} {make : β → Object} {k : NodeKind}
    (h : ∀ o, (got? o).map make = if o.kind = k then some o else none) (inner : List Fate) :
    ((attached inner).items.filterMap fun a => got? a.object).map make = objectsOf k inner := by
  rw [objectsOf, ← attached_objects, ← map_filterMap_kind h, List.filterMap_map]
  rfl

/-- One child stands in its place. -/
theorem attached_at {inner : List Fate} (hplaces : (inner.map (·.child.location)).Nodup)
    {f : Fate} (hf : f ∈ inner) :
    (attached inner).items.filter (·.location = f.child.location) =
      f.object?.toList.map f.child.attach := by
  have hone : inner.filter (·.child.location = f.child.location) = [f] :=
    Markup.filter_key_eq hplaces hf
  have hitems : (attached inner).items.filter (·.location = f.child.location) =
      (inner.filter (·.child.location = f.child.location)).filterMap attachment? := by
    rw [attached, List.filter_filterMap, List.filterMap_filter]
    refine List.filterMap_congr fun g _ => ?_
    rw [g.attachment?_eq]
    cases g.object? with
    | none => simp
    | some o => simp [Option.filter]
  rw [hitems, hone, List.filterMap_eq_flatMap_toList, List.flatMap_singleton, f.attachment?_eq,
    Option.toList_map]

/-- The children that came to objects stand where children stand. -/
theorem attached_locations {inner : List Fate} :
    (attached inner).items.map (·.location) ⊆ inner.map (·.child.location) := by
  intro l hl
  obtain ⟨a, ha, rfl⟩ := List.mem_map.mp hl
  obtain ⟨f, hf, hattached⟩ := List.mem_filterMap.mp ha
  rw [f.attachment?_eq] at hattached
  obtain ⟨o, -, rfl⟩ := Option.map_eq_some_iff.mp hattached
  rw [f.child.attach_location]
  exact List.mem_map_of_mem hf

/-! ## Mismatches -/

mutual

/-- A run finds what the ends of its nodes find. -/
theorem findings_perm : ∀ f : Fate, f.findings.Perm (f.all.flatMap own)
  | omitted n => .refl _
  | answered r target => by rw [all, List.flatMap_singleton, findings, own]
  | ended n inner outcome => by
    rw [all, List.flatMap_cons, findings]
    exact List.perm_append_comm.trans (.append_left _ (findingsAll_perm inner))

theorem findingsAll_perm : ∀ fs : List Fate, (findingsAll fs).Perm ((allIn fs).flatMap own)
  | [] => .refl _
  | f :: fs => by
    rw [findingsAll, allIn, List.flatMap_append]
    exact (findings_perm f).append (findingsAll_perm fs)

end

/-- Nodes report mismatches only where they hold something. -/
theorem mem_places_of_reports {n : Node} {inner : List Fate} (hinner : inner.map child = n.children)
    {x : Finding} (hx : x ∈ reports n inner) {l : Location} (hl : x.isMismatchAt l = true) :
    l ∈ n.places := by
  unfold reports at hx
  split at hx
  · obtain rfl := List.mem_singleton.mp hx
    cases hl
  · next p hp =>
    obtain ⟨q, rfl, hremark⟩ | ⟨u, rfl, -⟩ := inspect_remarks _ hp hx
    · cases hremark with
      | broken rule => cases hl
      | missing name => cases hl
      | property expected found hproperty =>
        obtain rfl := of_decide_eq_true hl
        exact List.mem_append_left _ (List.mem_map_of_mem (List.mem_of_find?_eq_some hproperty))
      | child name expected found hplace =>
        obtain rfl := of_decide_eq_true hl
        refine List.mem_append_right _ ?_
        rw [← hinner, List.map_map]
        exact attached_locations hplace
    · cases hl

theorem own_mismatches {r : Registry Object} {known : List Fate} {f : Fate} (hf : f.Right r known)
    {l : Location} (hl : l ∉ f.places) : f.own.filter (·.isMismatchAt l) = [] := by
  cases f with
  | omitted n => rfl
  | answered q target =>
    cases target with
    | ok o => rfl
    | error p =>
      obtain ⟨reason, rfl⟩ := hf
      rfl
  | ended n inner outcome =>
    rw [own]
    split
    · rfl
    · exact List.filter_eq_nil_iff.mpr fun x hx hmismatch =>
        hl (mem_places_of_reports hf.2.children hx hmismatch)

theorem flatMap_places (fs : List Fate) : fs.flatMap places = (endedIn fs).flatMap Node.places := by
  induction fs with
  | nil => rfl
  | cons f fs ih =>
    cases f with
    | ended n inner outcome => exact congrArg (n.places ++ ·) ih
    | _ => exact ih

end Fate

/-- What a run reports where a child stands is what is wrong with the child. -/
theorem run_mismatches {forest : List Node} (hplaces : ((preorder forest).flatMap Node.places).Nodup)
    {n : Node} {inner : List Fate} {outcome : Outcome}
    (hmem : .ended n inner outcome ∈ allIn (runFates forest)) (hend : outcome ≠ .aborted)
    {p : Plugin} (hp : Plugin.find? n.kind n.type = some p) {f : Fate} (hf : f ∈ inner) :
    (run forest).2.filter (·.isMismatchAt f.child.location) =
      (f.object?.bind (f.child.fault? n)).toList.map .problem := by
  have hright := runFates_right forest
  have hinner : inner.map child = n.children := (hright _ hmem).2.children
  have hfates : ((allIn (runFates forest)).flatMap places).Nodup := by
    rw [flatMap_places]
    exact hplaces.sublist ((fatesAll_nodes _ forest).flatMap _)
  have hnode : n.places.Nodup := (List.nodup_flatMap.mp hfates).1 _ hmem
  obtain ⟨-, hchildren, hclear⟩ := List.nodup_append.mp hnode
  have hlocations : n.children.map Child.location = inner.map (·.child.location) := by
    rw [← hinner, List.map_map]
    rfl
  rw [hlocations] at hchildren
  have hlocation : f.child.location ∈ n.children.map Child.location :=
    hlocations ▸ List.mem_map_of_mem hf
  have hreports : (reports n inner).filter (·.isMismatchAt f.child.location) =
      (f.object?.bind (f.child.fault? n)).toList.map .problem := by
    rw [reports, hp]
    refine inspect_mismatches hp (fun name q hq hplace => ?_) (attached_at hchildren hf)
    exact hclear _ (List.mem_map_of_mem (List.mem_of_find?_eq_some hq)) _ hlocation hplace
  have hsum : (allIn (runFates forest)).flatMap (fun g =>
      g.own.filter (·.isMismatchAt f.child.location)) =
      (reports n inner).filter (·.isMismatchAt f.child.location) := by
    rw [flatMap_eq_of_key hfates hmem (List.mem_append_right _ hlocation) fun g hg hl =>
      own_mismatches (hright g hg) hl, own, if_neg hend]
  have hdeclared : ((declareAll Registry.empty forest).2.map Finding.problem).filter
      (·.isMismatchAt f.child.location) = [] := by
    refine List.filter_eq_nil_iff.mpr fun x hx hmismatch => ?_
    obtain ⟨q, hq, rfl⟩ := List.mem_map.mp hx
    obtain ⟨id, first, second, rfl⟩ := declareAll_problems _ forest q hq
    cases hmismatch
  rw [(run_sums forest).1, List.filter_append, hdeclared, List.nil_append, ← Option.toList_map]
  apply eq_toList_of_perm
  rw [Option.toList_map, ← hreports, ← hsum, ← List.filter_flatMap]
  exact (findingsAll_perm _).filter _

/-! ## Drafts -/

mutual

theorem fate_kept (s : State) : ∀ n, ∀ f ∈ (fate s n).all, f.Kept
  | ⟨index, kind, type, id, name, location, properties, children, invalid⟩ => by
    by_cases h : s.registry.isDuplicate index = true
    · rw [fate_of_duplicate h]
      exact List.forall_mem_singleton.mpr trivial
    · have hfirst := Bool.eq_false_iff.mpr h
      rw [fate_of_first hfirst, all]
      refine List.forall_mem_cons.mpr ⟨?_, fates_kept s children⟩
      intro o ho
      rw [build_outcome_of_first hfirst] at ho
      obtain ⟨p, product, hp, hproduct, hobject⟩ := conclude_built ho
      rw [buildChildren_eq] at hproduct
      exact ⟨product, _, by rw [makes, hp]; exact hproduct, hobject⟩

theorem fates_kept (s : State) : ∀ cs, ∀ f ∈ allIn (fates s cs), f.Kept
  | [] => List.forall_mem_nil _
  | .nested n :: cs => by
    rw [fates, allIn]
    exact List.forall_mem_append.mpr ⟨fate_kept s n, fates_kept _ cs⟩
  | .reference r :: cs => by
    rw [fates, allIn, all]
    exact List.forall_mem_append.mpr ⟨List.forall_mem_singleton.mpr trivial, fates_kept _ cs⟩

end

theorem fatesAll_kept (s : State) (forest : List Node) :
    ∀ f ∈ allIn (fatesAll s forest), f.Kept := by
  induction forest generalizing s with
  | nil => exact List.forall_mem_nil _
  | cons n ns ih =>
    rw [fatesAll, allIn]
    exact List.forall_mem_append.mpr ⟨fate_kept s n, ih _⟩

theorem makes_of_find? {n : Node} {inner : List Fate} {p : Plugin}
    (hp : Plugin.find? n.kind n.type = some p) :
    p.kind = n.kind ∧ makes n inner = (p.build (attached inner) n.settings).1 := by
  refine ⟨(Plugin.accepts_of_find? hp).1, ?_⟩
  rw [makes, hp]
  rfl

/-- A node that ends with an object ends with the one that its plugin made. -/
theorem built_of_makes {n : Node} {inner : List Fate} {outcome : Outcome}
    (h : (Fate.ended n inner outcome).Kept) {o : Object} (hmakes : makes n inner = some (.object o)) :
    ∀ o', outcome = .built o' → o' = o := by
  intro o' ho'
  obtain ⟨product, arena, hproduct, hobject⟩ := h o' ho'
  rw [hmakes] at hproduct
  obtain rfl := Option.some.inj hproduct
  exact hobject.symm

/-- A sensor gets all samplers and films among the children of its node. -/
theorem makes_sensor {n : Node} {p : Plugin} (hp : Plugin.find? n.kind n.type = some p)
    (hkind : n.kind = .sensor) (inner : List Fate) :
    ∃ d, makes n inner = some (.object (.sensor d)) ∧
      d.samplers.map .sampler = objectsOf .sampler inner ∧
      d.films.map .film = objectsOf .film inner := by
  obtain ⟨hpkind, hmakes⟩ := @makes_of_find? n inner p hp
  obtain ⟨d, hd, hsamplers, hfilms⟩ :=
    Plugin.sensor_of_find? hp (hpkind.trans hkind) (attached inner) n.settings
  refine ⟨d, hmakes.trans hd, ?_, ?_⟩
  · rw [hsamplers]
    exact attached_kind (fun o => by cases o <;> rfl) inner
  · rw [hfilms]
    exact attached_kind (fun o => by cases o <;> rfl) inner

/-- A shape gets all bsdfs and emitters among the children of its node. -/
theorem makes_shape {n : Node} {p : Plugin} (hp : Plugin.find? n.kind n.type = some p)
    (hkind : n.kind = .shape) (inner : List Fate) :
    ∃ d, makes n inner = some (.object (.shape d)) ∧
      d.bsdfs.map .bsdf = objectsOf .bsdf inner ∧
      d.emitters.map .emitter = objectsOf .emitter inner := by
  obtain ⟨hpkind, hmakes⟩ := @makes_of_find? n inner p hp
  obtain ⟨d, hd, hbsdfs, hemitters⟩ :=
    Plugin.shape_of_find? hp (hpkind.trans hkind) (attached inner) n.settings
  refine ⟨d, hmakes.trans hd, ?_, ?_⟩
  · rw [hbsdfs]
    exact attached_kind (fun o => by cases o <;> rfl) inner
  · rw [hemitters]
    exact attached_kind (fun o => by cases o <;> rfl) inner

/-! ## Documents -/

/-- **The children of a node fit or are reported.**  In a run over the nodes of a document, what
becomes of the children of a node that is looked at is told in their order.  Where a child stands,
the run reports what is wrong with the object of the child, and nothing if it fits or if it has
none; the report tells whether the child is a nested node or a reference.  A sensor is made of all
samplers and films among the objects, a shape of all bsdfs and emitters, in document order. -/
theorem run_childSlots {source : String} {root : Markup.Element}
    (h : Markup.read source = .ok root) (params : Parameter.Table) {n : Node} {inner : List Fate}
    {outcome : Outcome} (hend : outcome ≠ .aborted)
    (hmem : .ended n inner outcome ∈
      allIn (runFates (Node.readForest params 0 root.children).value))
    (hknown : (Plugin.find? n.kind n.type).isSome = true) :
    inner.map child = n.children ∧
    (∀ f ∈ inner, (run (Node.readForest params 0 root.children).value).2.filter
        (·.isMismatchAt f.child.location) =
      (f.object?.bind (f.child.fault? n)).toList.map .problem) ∧
    (∀ f ∈ inner, ∀ k, (f.child.found k).describe = f.child.attachedAs ++ k.name) ∧
    (n.kind = .sensor → ∃ d, makes n inner = some (.object (.sensor d)) ∧
      d.samplers.map .sampler = objectsOf .sampler inner ∧
      d.films.map .film = objectsOf .film inner ∧
      ∀ o, outcome = .built o → o = .sensor d) ∧
    (n.kind = .shape → ∃ d, makes n inner = some (.object (.shape d)) ∧
      d.bsdfs.map .bsdf = objectsOf .bsdf inner ∧
      d.emitters.map .emitter = objectsOf .emitter inner ∧
      ∀ o, outcome = .built o → o = .shape d) := by
  obtain ⟨p, hp⟩ := Option.isSome_iff_exists.mp hknown
  have hkept := fatesAll_kept _ _ _ hmem
  refine ⟨(runFates_right _ _ hmem).2.children, fun f hf => ?_, fun f _ k => ?_, fun hkind => ?_,
    fun hkind => ?_⟩
  · exact run_mismatches (Node.readForest_places_nodup h params 0) hmem hend hp hf
  · exact f.child.describe_found k
  · obtain ⟨d, hmakes, hsamplers, hfilms⟩ := makes_sensor hp hkind inner
    exact ⟨d, hmakes, hsamplers, hfilms, built_of_makes hkept hmakes⟩
  · obtain ⟨d, hmakes, hbsdfs, hemitters⟩ := makes_shape hp hkind inner
    exact ⟨d, hmakes, hbsdfs, hemitters, built_of_makes hkept hmakes⟩

/-- A cube with a bsdf, a reference to a sampler, and a volume without a side. -/
def crowdedCube : String :=
  "<scene version=\"2.1.0\"><sampler type=\"independent\" id=\"s\"/><shape type=\"cube\">" ++
    "<bsdf type=\"conductor\"/><ref id=\"s\"/><volume type=\"homogeneous\"/></shape></scene>"

theorem run_childSlots_crowdedCube :
    ∃ root n inner outcome, Markup.read crowdedCube = .ok root ∧ outcome ≠ .aborted ∧
      .ended n inner outcome ∈
        allIn (runFates (Node.readForest .empty 0 root.children).value) ∧
      (Plugin.find? n.kind n.type).isSome = true ∧ n.kind = .shape ∧ inner.length = 3 ∧
      (inner.filterMap fun f => f.object?.bind (f.child.fault? n)).length = 2 ∧
      (∀ f ∈ inner, (run (Node.readForest .empty 0 root.children).value).2.filter
          (·.isMismatchAt f.child.location) =
        (f.object?.bind (f.child.fault? n)).toList.map .problem) ∧
      ∃ d, makes n inner = some (.object (.shape d)) ∧
        d.bsdfs.map .bsdf = objectsOf .bsdf inner := by
  have hread : (Markup.read crowdedCube).toOption.any (fun root =>
      (allIn (runFates (Node.readForest .empty 0 root.children).value)).any fun
        | .ended n inner outcome => decide (outcome ≠ .aborted ∧
            (Plugin.find? n.kind n.type).isSome = true ∧ n.kind = .shape ∧ inner.length = 3 ∧
            (inner.filterMap fun f => f.object?.bind (f.child.fault? n)).length = 2)
        | _ => false) = true := by
    decide +kernel
  obtain ⟨root, hroot, hany⟩ := exists_of_any hread
  obtain ⟨f, hmem, hf⟩ := List.any_eq_true.mp hany
  cases f with
  | omitted n => cases hf
  | answered r target => cases hf
  | ended n inner outcome =>
    obtain ⟨hend, hknown, hkind, hlength, hfaults⟩ := of_decide_eq_true hf
    obtain ⟨-, hmismatches, -, -, hshape⟩ := run_childSlots hroot .empty hend hmem hknown
    obtain ⟨d, hmakes, hbsdfs, -⟩ := hshape hkind
    exact ⟨root, n, inner, outcome, hroot, hend, hmem, hknown, hkind, hlength, hfaults,
      hmismatches, d, hmakes, hbsdfs⟩

end Instantiation

end SceneGraph
