import SceneGraph.Instantiation

/-!
# What plugins report

Whatever a plugin reports is a remark about its own node (`Remark`): a rule that the node
breaks, a property that it lacks, or a property or child of another kind than expected, at the
position of that property or child.  `inspect_remarks` says so of every finding about a node.

`Remarks` goes from the parts of an inspection to the whole as a class, so that it is found for
a plugin by going through its settings.
-/

namespace SceneGraph

/-- A problem of the node with settings `s`, some of whose children are at `places`. -/
inductive Remark (s : Settings) (places : List Location) : Problem → Prop
  | broken (rule : Violation) : Remark s places (.violation s.node rule)
  | missing (name : String) : Remark s places (.missingProperty s.node name)
  | property {name : String} {p : Property} (expected : Expected) (found : Found) :
      s.property? name = some p →
      Remark s places (.typeMismatch p.location p.name expected found)
  | child {l : Location} (name : String) (expected : Expected) (found : Found) :
      l ∈ places → Remark s places (.typeMismatch l name expected found)

/-- An inspection that reports nothing but remarks. -/
class Remarks (places : List Location) {α : Type} (m : Inspect α) : Prop where
  remark : ∀ s, ∀ p ∈ (m s).2.problems, Remark s places p

namespace Inspect

variable {α β : Type} {places : List Location}

/-! ## Parts of inspections -/

instance remarks_pure (a : α) : Remarks places (pure a : Inspect α) := ⟨fun _ _ hp => by cases hp⟩

instance remarks_bind (m : Inspect α) (f : α → Inspect β) [hm : Remarks places m]
    [hf : ∀ a, Remarks places (f a)] : Remarks places (m >>= f) := by
  refine ⟨fun s p hp => ?_⟩
  have hp' : p ∈ (m s).2.problems ++ (f (m s).1 s).2.problems := hp
  rcases List.mem_append.mp hp' with hp | hp
  · exact hm.remark s p hp
  · exact (hf _).remark s p hp

instance remarks_node : Remarks places node := ⟨fun _ _ hp => by cases hp⟩

instance remarks_breaks (rule : Violation) : Remarks places (breaks rule) := by
  refine ⟨fun s p hp => ?_⟩
  rw [List.mem_singleton.mp hp]
  exact .broken rule

instance remarks_forbid (bad : Bool) (rule : Violation) : Remarks places (forbid bad rule) := by
  unfold forbid
  split
  · infer_instance
  · exact remarks_pure ()

instance remarks_missing (name : String) : Remarks places (missing name) := by
  refine ⟨fun s p hp => ?_⟩
  simp only [missing] at hp
  split at hp
  · cases hp
  · rw [List.mem_singleton.mp hp]
    exact .missing name

/-- A value of another kind is reported where it stands. -/
theorem accepted_remarks {s : Settings} {name : String} {p : Property} (expected : Expected)
    (accept : Value → Option α) (hp : s.property? name = some p) :
    ∀ q ∈ (accepted p expected accept s).2.problems, Remark s places q := by
  intro q hq
  cases ha : accept p.value with
  | some a =>
    rw [show accepted p expected accept = of (some a) by rw [accepted, ha]] at hq
    cases hq
  | none =>
    rw [show accepted p expected accept = (do
      report (.typeMismatch p.location p.name expected (.kind p.value.kind))
      return none) by rw [accepted, ha]] at hq
    rw [List.mem_singleton.mp hq]
    exact .property expected _ hp

instance remarks_value? (name : String) (expected : Expected) (accept : Value → Option α) :
    Remarks places (value? name expected accept) := by
  refine ⟨fun s q hq => ?_⟩
  cases hp : s.property? name with
  | none =>
    have hq' : q ∈ ((pure none : Inspect (Option α)) s).2.problems := by
      simpa [value?, Bind.bind, andThen, ask, hp] using hq
    cases hq'
  | some p =>
    have hq' : q ∈ (accepted p expected accept s).2.problems := by
      simpa [value?, Bind.bind, andThen, ask, hp] using hq
    exact accepted_remarks expected accept hp q hq'

instance remarks_required? (name : String) (expected : Expected) (accept : Value → Option α) :
    Remarks places (required? name expected accept) := by
  refine ⟨fun s q hq => ?_⟩
  cases hp : s.property? name with
  | none =>
    have hq' : q ∈ (missing name s).2.problems := by
      simpa [required?, Bind.bind, andThen, ask, hp, Pure.pure, of] using hq
    exact (remarks_missing name).remark s q hq'
  | some p =>
    have hq' : q ∈ (accepted p expected accept s).2.problems := by
      simpa [required?, Bind.bind, andThen, ask, hp] using hq
    exact accepted_remarks expected accept hp q hq'

/-! ## Values of each kind -/

section

variable (name : String)

instance remarks_float (d : Float32) : Remarks places (float name d) := by
  unfold float; infer_instance

instance remarks_integer (d : Int) : Remarks places (integer name d) := by
  unfold integer; infer_instance

instance remarks_count (d : Nat) : Remarks places (count name d) := by
  unfold count
  refine @remarks_bind _ _ _ _ _ _ fun n => ?_
  split
  · infer_instance
  · split <;> infer_instance

instance remarks_boolean (d : Bool) : Remarks places (boolean name d) := by
  unfold boolean; infer_instance

instance remarks_text (d : String) : Remarks places (text name d) := by
  unfold text; infer_instance

instance remarks_rgb? : Remarks places (rgb? name) := by
  unfold rgb?; infer_instance

instance remarks_rgb (d : Geometry.Vec3) : Remarks places (rgb name d) := by
  unfold rgb; infer_instance

instance remarks_spectrum (d : Geometry.Vec3) : Remarks places (spectrum name d) := by
  unfold spectrum; infer_instance

instance remarks_point (d : Geometry.Vec3) : Remarks places (point name d) := by
  unfold point; infer_instance

instance remarks_transform : Remarks places (transform name) := by
  unfold transform; infer_instance

instance remarks_floatOrName? : Remarks places (floatOrName? name) := by
  unfold floatOrName?; infer_instance

instance remarks_requiredText (d : String) : Remarks places (requiredText name d) := by
  unfold requiredText; infer_instance

instance remarks_requiredRgb (d : Geometry.Vec3) : Remarks places (requiredRgb name d) := by
  unfold requiredRgb; infer_instance

instance remarks_requiredVector (d : Geometry.Vec3) : Remarks places (requiredVector name d) := by
  unfold requiredVector; infer_instance

end

end Inspect

namespace Plugin

variable {places : List Location}

/-! ## Settings of the plugins -/

instance remarks_pathSettings (make : Int → Int → Bool → IntegratorKind) :
    Remarks places (pathSettings make) := by
  unfold pathSettings; infer_instance

instance remarks_directSettings : Remarks places directSettings := by
  unfold directSettings; infer_instance

instance remarks_perspectiveSettings : Remarks places perspectiveSettings := by
  unfold perspectiveSettings; infer_instance

instance remarks_formatName (property d : String) (formats : List String) :
    Remarks places (formatName property d formats) := by
  unfold formatName; infer_instance

instance remarks_gaussianSettings : Remarks places gaussianSettings := by
  unfold gaussianSettings; infer_instance

instance remarks_diffuseSettings : Remarks places diffuseSettings := by
  unfold diffuseSettings; infer_instance

instance remarks_principledSettings : Remarks places principledSettings := by
  unfold principledSettings; infer_instance

instance remarks_refraction (property : String) (d : Float32) :
    Remarks places (refraction property d) := by
  unfold refraction
  refine @Inspect.remarks_bind _ _ _ _ _ _ fun x => ?_
  split <;> infer_instance

instance remarks_dielectricSettings : Remarks places dielectricSettings := by
  unfold dielectricSettings; infer_instance

instance remarks_conductorSettings : Remarks places conductorSettings := by
  unfold conductorSettings; infer_instance

instance remarks_plasticSettings : Remarks places plasticSettings := by
  unfold plasticSettings; infer_instance

instance remarks_directionalSettings : Remarks places directionalSettings := by
  unfold directionalSettings; infer_instance

instance remarks_pointSettings : Remarks places pointSettings := by
  unfold pointSettings; infer_instance

instance remarks_envmapSettings : Remarks places envmapSettings := by
  unfold envmapSettings; infer_instance

instance remarks_meshSettings (format : MeshFormat) : Remarks places (meshSettings format) := by
  unfold meshSettings; infer_instance

instance remarks_sphereSettings : Remarks places sphereSettings := by
  unfold sphereSettings; infer_instance

/-- A volume without a side is reported where it was attached. -/
theorem remarks_placeVolumes (sides : Sides) (items : List (Attachment × VolumeHandle))
    (h : ∀ item ∈ items, item.1.location ∈ places) :
    Remarks places (placeVolumes sides items) := by
  induction items generalizing sides with
  | nil => exact Inspect.remarks_pure sides
  | cons item rest ih =>
    have hrest := fun sides => ih sides fun i hi => h i (List.mem_cons_of_mem _ hi)
    unfold placeVolumes
    split
    · exact @Inspect.remarks_bind _ _ _ _ _ _ fun _ => hrest _
    · split
      · exact @Inspect.remarks_bind _ _ _ _ _ _ fun _ => hrest _
      · refine @Inspect.remarks_bind _ _ _ _ _ ⟨fun s p hp => ?_⟩ fun _ => hrest _
        rw [List.mem_singleton.mp hp]
        exact .child _ _ _ (h item List.mem_cons_self)

/-! ## Plugins -/

/-- A plugin whose reports are remarks, whatever children its node has. -/
def Remarking (p : Plugin) : Prop :=
  ∀ children, Remarks (children.items.map (·.location)) (p.build children)

/-- A plugin that has no remarks on children. -/
def Heedless (p : Plugin) : Prop :=
  p.kind ≠ .shape ∧ ∀ places children, Remarks places (p.build children)

/-- A plugin that has remarks on the volumes of its node only. -/
def OfShape (p : Plugin) : Prop :=
  ∃ type settings, p = shapePlugin type settings ∧ ∀ places, Remarks places settings

theorem heedless_viewPlugins : ∀ p ∈ viewPlugins, Heedless p := by
  simp only [viewPlugins, List.forall_mem_cons, integratorPlugin, sensorPlugin, samplerPlugin,
    filmPlugin, filterPlugin, Heedless]
  refine ⟨?_, ?_, ?_, ?_, ?_, ?_, ?_, ?_, ?_, ?_, ?_, ?_, ?_, by simp⟩
  all_goals exact ⟨nofun, fun places children => inferInstance⟩

theorem heedless_twoSidedPlugin : Heedless twoSidedPlugin := by
  refine ⟨nofun, fun places children => ?_⟩
  unfold twoSidedPlugin
  dsimp only
  split <;> infer_instance

theorem heedless_materialPlugins : ∀ p ∈ materialPlugins, Heedless p := by
  simp only [materialPlugins, List.forall_mem_cons, bsdfPlugin, homogeneousPlugin]
  refine ⟨?_, heedless_twoSidedPlugin, ?_, ?_, ?_, ?_, ?_, by simp⟩
  all_goals exact ⟨nofun, fun places children => inferInstance⟩

theorem heedless_emitterPlugin (type : String) (settings : Inspect EmitterKind)
    (h : ∀ places, Remarks places settings) : Heedless (emitterPlugin type settings) := by
  refine ⟨nofun, fun places children => ?_⟩
  have := h places
  unfold emitterPlugin
  infer_instance

theorem heedless_or_ofShape_bodyPlugins : ∀ p ∈ bodyPlugins, Heedless p ∨ OfShape p := by
  have hemitter : ∀ type settings, (∀ places, Remarks places settings) →
      Heedless (emitterPlugin type settings) ∨ OfShape (emitterPlugin type settings) :=
    fun type settings h => .inl (heedless_emitterPlugin type settings h)
  have hshape : ∀ type settings, (∀ places, Remarks places settings) →
      Heedless (shapePlugin type settings) ∨ OfShape (shapePlugin type settings) :=
    fun type settings h => .inr ⟨type, settings, rfl, h⟩
  simp only [bodyPlugins, List.forall_mem_cons]
  refine ⟨hemitter _ _ ?_, hemitter _ _ ?_, hemitter _ _ ?_, hemitter _ _ ?_, hemitter _ _ ?_,
    hshape _ _ ?_, hshape _ _ ?_, hshape _ _ ?_, hshape _ _ ?_, hshape _ _ ?_, hshape _ _ ?_,
    by simp⟩
  all_goals exact fun places => inferInstance

/-- Only shapes look closer at their children. -/
theorem heedless_or_ofShape_of_find? {kind : NodeKind} {type : String} {p : Plugin}
    (h : find? kind type = some p) : Heedless p ∨ OfShape p :=
  forall_of_find? (P := fun p => Heedless p ∨ OfShape p)
    (fun p hp => .inl (heedless_viewPlugins p hp))
    (fun p hp => .inl (heedless_materialPlugins p hp)) heedless_or_ofShape_bodyPlugins h

theorem ofShape_of_find? {kind : NodeKind} {type : String} {p : Plugin}
    (h : find? kind type = some p) (hkind : p.kind = .shape) : OfShape p :=
  (heedless_or_ofShape_of_find? h).resolve_left fun hheedless => hheedless.1 hkind

theorem OfShape.remarking {p : Plugin} (h : OfShape p) : Remarking p := by
  obtain ⟨type, settings, rfl, hsettings⟩ := h
  intro children
  have := hsettings (children.items.map (·.location))
  have : ∀ sides, Remarks (children.items.map (·.location))
      (placeVolumes sides children.volumes) := by
    intro sides
    apply remarks_placeVolumes
    intro item hitem
    obtain ⟨a, ha, hv⟩ := List.mem_filterMap.mp hitem
    obtain ⟨v, -, rfl⟩ := Option.map_eq_some_iff.mp hv
    exact List.mem_map_of_mem ha
  unfold shapePlugin
  infer_instance

/-- Every plugin reports remarks only. -/
theorem remarking_of_find? {kind : NodeKind} {type : String} {p : Plugin}
    (h : find? kind type = some p) : Remarking p := by
  rcases heedless_or_ofShape_of_find? h with hheedless | hshape
  · exact fun children => hheedless.2 _ children
  · exact hshape.remarking

end Plugin

namespace Instantiation

theorem node_of_mem_unused {node : NodeRef} {asked : List String} {u : Unused}
    (ps : List Property) : ∀ earlier, u ∈ unused node asked earlier ps → u.node = node := by
  induction ps with
  | nil => exact fun _ hu => nomatch hu
  | cons p ps ih =>
    intro earlier hu
    rw [unused] at hu
    split at hu
    · exact ih _ hu
    · rcases List.mem_cons.mp hu with rfl | hu
      · rfl
      · exact ih _ hu

/-- Findings about a node are remarks and unused properties. -/
theorem inspect_remarks {n : Node} {p : Plugin} (children : Attached)
    (h : Plugin.find? n.kind n.type = some p) {f : Finding} (hf : f ∈ (inspect p n children).2) :
    (∃ q, f = .problem q ∧ Remark n.settings (children.items.map (·.location)) q) ∨
      ∃ u, f = .unused u ∧ u.node = n.ref := by
  simp only [inspect, List.mem_append, List.mem_map] at hf
  rcases hf with (⟨q, hq, rfl⟩ | ⟨q, hq, rfl⟩) | ⟨u, hu, rfl⟩
  · exact .inl ⟨q, rfl, (Plugin.remarking_of_find? h children).remark _ q hq⟩
  · obtain ⟨item, hitem, rfl⟩ := List.mem_map.mp hq
    exact .inl ⟨_, rfl, .child _ _ _ (List.mem_map_of_mem (List.mem_filter.mp hitem).1)⟩
  · exact .inr ⟨u, rfl, node_of_mem_unused _ _ hu⟩

end Instantiation

end SceneGraph
