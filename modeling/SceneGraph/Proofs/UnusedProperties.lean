import SceneGraph.Proofs.Accounts
import SceneGraph.Proofs.Telling

/-!
# Which properties are unused

A plugin asks for the same properties whatever it finds: no value, no problem and no child makes it
ask for more or for fewer (`asked_of_find?`).  So `supported?` lists, for every kind and type, the
names that are used, and a property is reported as unused because of its name alone
(`run_unread`).
-/

namespace SceneGraph

/-- The names that an inspection asks for, in order. -/
def Inspect.asked {α : Type} (m : Inspect α) (s : Settings) : List String := (m s).2.asked

namespace Plugin

/-- The properties that the nodes of each kind and type can use. -/
def supports : List (NodeKind × String × List String) :=
  [(.integrator, "path", ["max_depth", "rr_depth", "hide_emitters"]),
   (.integrator, "volpath", ["max_depth", "rr_depth", "hide_emitters"]),
   (.integrator, "direct",
    ["shading_samples", "emitter_samples", "bsdf_samples", "hide_emitters"]),
   (.sensor, "perspective",
    ["fov", "fov_axis", "principal_point_offset_x", "principal_point_offset_y", "near_clip",
      "far_clip", "to_world"]),
   (.sensor, "orthographic", ["near_clip", "far_clip", "to_world"]),
   (.sampler, "independent", ["sample_count", "seed"]),
   (.sampler, "stratified", ["sample_count", "seed"]),
   (.sampler, "multijitter", ["sample_count", "seed"]),
   (.sampler, "ldsampler", ["sample_count", "seed"]),
   (.film, "hdrfilm", ["width", "height", "pixel_format", "component_format"]),
   (.filter, "box", []),
   (.filter, "tent", []),
   (.filter, "gaussian", ["stddev"]),
   (.bsdf, "diffuse", ["reflectance"]),
   (.bsdf, "twosided", []),
   (.bsdf, "principled",
    ["base_color", "metallic", "specular", "spec_tint", "roughness", "anisotropic", "sheen",
      "sheen_tint", "clearcoat", "clearcoat_gloss", "spec_trans", "eta"]),
   (.bsdf, "dielectric", ["int_ior", "ext_ior"]),
   (.bsdf, "conductor", ["material", "eta", "k"]),
   (.bsdf, "plastic", ["diffuse_reflectance", "int_ior", "ext_ior"]),
   (.volume, "homogeneous", ["sigma_t", "albedo", "scale"]),
   (.emitter, "constant", ["radiance"]),
   (.emitter, "point", ["position", "intensity"]),
   (.emitter, "directional", ["direction", "irradiance"]),
   (.emitter, "envmap", ["filename", "scale", "to_world"]),
   (.emitter, "area", ["radiance"]),
   (.shape, "ply", ["filename", "face_normals", "to_world", "flip_normals"]),
   (.shape, "obj", ["filename", "face_normals", "to_world", "flip_normals"]),
   (.shape, "sphere", ["radius", "center", "to_world", "flip_normals"]),
   (.shape, "rectangle", ["to_world", "flip_normals"]),
   (.shape, "cube", ["to_world", "flip_normals"]),
   (.shape, "disk", ["to_world", "flip_normals"])]

def supported? (kind : NodeKind) (type : String) : Option (List String) :=
  (supports.find? fun e => e.1 = kind && e.2.1 = type).map (·.2.2)

end Plugin

namespace Node

/-- The properties of a node that are not supported for its kind and type, in order. -/
def unsupported (n : Node) : List Unused :=
  match Plugin.supported? n.kind n.type with
  | none => []
  | some names =>
    (n.properties.filter fun p => !names.contains p.name).map fun p => ⟨n.ref, p.name, p.location⟩

/-- The same, and of several properties with one name all but the first. -/
def unread (n : Node) : List Unused :=
  match Plugin.supported? n.kind n.type with
  | none => []
  | some names => Instantiation.unused n.ref names [] n.properties

end Node

namespace Instantiation.Event

/-- The properties that are reported as unused in an event, which is the end of a node that is not
aborted. -/
def unread : Event → List Unused
  | opened _ => []
  | referred _ _ _ => []
  | closed n _ outcome => if outcome = .aborted then [] else n.unread

end Instantiation.Event

/-! ## What inspections ask for -/

namespace Inspect

variable {α β : Type} (s : Settings)

@[simp] theorem asked_pure (a : α) : asked (pure a : Inspect α) s = [] := rfl

@[simp] theorem asked_bind (m : Inspect α) (f : α → Inspect β) :
    asked (m >>= f) s = asked m s ++ asked (f (m s).1) s := rfl

@[simp] theorem asked_node : asked node s = [] := rfl

@[simp] theorem asked_ask (name : String) : asked (ask name) s = [name] := rfl

@[simp] theorem asked_report (p : Problem) : asked (report p) s = [] := rfl

@[simp] theorem asked_breaks (rule : Violation) : asked (breaks rule) s = [] := rfl

@[simp] theorem asked_forbid (bad : Bool) (rule : Violation) : asked (forbid bad rule) s = [] := by
  cases bad <;> rfl

@[simp] theorem asked_missing (name : String) : asked (missing name) s = [] := rfl

@[simp] theorem asked_accepted (p : Property) (expected : Expected) (accept : Value → Option α) :
    asked (accepted p expected accept) s = [] := by
  unfold accepted
  split <;> rfl

@[simp] theorem asked_value? (name : String) (expected : Expected) (accept : Value → Option α) :
    asked (value? name expected accept) s = [name] := by
  rw [value?, asked_bind]
  split <;> simp

@[simp] theorem asked_required? (name : String) (expected : Expected)
    (accept : Value → Option α) : asked (required? name expected accept) s = [name] := by
  rw [required?, asked_bind]
  split <;> simp

@[simp] theorem asked_count (name : String) (d : Nat) : asked (count name d) s = [name] := by
  rw [count, asked_bind]
  split
  · simp
  · split <;> simp

end Inspect

namespace Plugin

open Inspect

variable (s : Settings)

@[simp] theorem asked_refraction (property : String) (d : Float32) :
    asked (refraction property d) s = [property] := by
  rw [refraction, floatOrName?, asked_bind]
  split <;> simp

@[simp] theorem asked_placeVolumes (sides : Sides) (items : List (Attachment × VolumeHandle)) :
    asked (placeVolumes sides items) s = [] := by
  induction items generalizing sides with
  | nil => rfl
  | cons item rest ih =>
    unfold placeVolumes
    split
    · simp [ih]
    · split <;> simp [ih]

/-- Also a two-sided bsdf without its sides asks for nothing. -/
@[simp] theorem asked_twoSidedPlugin (children : Attached) :
    asked (twoSidedPlugin.build children) s = [] := by
  unfold twoSidedPlugin
  dsimp only
  split <;> simp

/-- The plugin asks for what is supported for its kind and type, whatever the children and the
settings are. -/
def AsksSupported (p : Plugin) : Prop :=
  ∃ names, supported? p.kind p.type = some names ∧ ∀ children s, asked (p.build children) s = names

theorem asksSupported_viewPlugins : ∀ p ∈ viewPlugins, AsksSupported p := by
  simp only [viewPlugins, List.forall_mem_cons]
  refine ⟨⟨_, rfl, ?_⟩, ⟨_, rfl, ?_⟩, ⟨_, rfl, ?_⟩, ⟨_, rfl, ?_⟩, ⟨_, rfl, ?_⟩, ⟨_, rfl, ?_⟩,
    ⟨_, rfl, ?_⟩, ⟨_, rfl, ?_⟩, ⟨_, rfl, ?_⟩, ⟨_, rfl, ?_⟩, ⟨_, rfl, ?_⟩, ⟨_, rfl, ?_⟩,
    ⟨_, rfl, ?_⟩, List.forall_mem_nil _⟩
  all_goals
    intro children s
    simp [integratorPlugin, pathSettings, directSettings, sensorPlugin, perspectiveSettings,
      samplerPlugin, filmPlugin, formatName, filterPlugin, gaussianSettings, float, integer,
      boolean, text, transform]

theorem asksSupported_materialPlugins : ∀ p ∈ materialPlugins, AsksSupported p := by
  simp only [materialPlugins, List.forall_mem_cons]
  refine ⟨⟨_, rfl, ?_⟩, ⟨_, rfl, ?_⟩, ⟨_, rfl, ?_⟩, ⟨_, rfl, ?_⟩, ⟨_, rfl, ?_⟩, ⟨_, rfl, ?_⟩,
    ⟨_, rfl, ?_⟩, List.forall_mem_nil _⟩
  all_goals
    intro children s
    simp [bsdfPlugin, diffuseSettings, principledSettings, dielectricSettings, conductorSettings,
      plasticSettings, homogeneousPlugin, float, text, rgb, rgb?, Inspect.spectrum, requiredRgb]

theorem asksSupported_bodyPlugins : ∀ p ∈ bodyPlugins, AsksSupported p := by
  simp only [bodyPlugins, List.forall_mem_cons]
  refine ⟨⟨_, rfl, ?_⟩, ⟨_, rfl, ?_⟩, ⟨_, rfl, ?_⟩, ⟨_, rfl, ?_⟩, ⟨_, rfl, ?_⟩, ⟨_, rfl, ?_⟩,
    ⟨_, rfl, ?_⟩, ⟨_, rfl, ?_⟩, ⟨_, rfl, ?_⟩, ⟨_, rfl, ?_⟩, ⟨_, rfl, ?_⟩, List.forall_mem_nil _⟩
  all_goals
    intro children s
    simp [emitterPlugin, pointSettings, directionalSettings, envmapSettings, shapePlugin,
      meshSettings, sphereSettings, float, boolean, Inspect.spectrum, point, transform,
      requiredText, requiredVector]

/-- Every plugin asks for what is supported for its kind and type. -/
theorem asked_of_find? {kind : NodeKind} {type : String} {p : Plugin}
    (h : find? kind type = some p) :
    ∃ names, supported? kind type = some names ∧
      ∀ children s, asked (p.build children) s = names := by
  have hsupported : AsksSupported p := forall_of_find? asksSupported_viewPlugins
    asksSupported_materialPlugins asksSupported_bodyPlugins h
  have hkind := List.find?_some h
  rw [Bool.and_eq_true, decide_eq_true_eq, decide_eq_true_eq] at hkind
  rwa [AsksSupported, hkind.1, hkind.2] at hsupported

/-- Something is supported, be it no property, exactly for the types that a plugin has. -/
theorem supported?_eq_none_iff {kind : NodeKind} {type : String} :
    supported? kind type = none ↔ find? kind type = none := by
  constructor
  · intro hnone
    cases hp : find? kind type with
    | none => rfl
    | some p =>
      obtain ⟨names, hnames, -⟩ := asked_of_find? hp
      rw [hnone] at hnames
      cases hnames
  · intro hnone
    have hknown : ∀ e ∈ supports, find? e.1 e.2.1 ≠ none := by decide
    rw [supported?, Option.map_eq_none_iff, List.find?_eq_none]
    intro e he hkind
    rw [Bool.and_eq_true, decide_eq_true_eq, decide_eq_true_eq] at hkind
    exact hknown e he (by rw [hkind.1, hkind.2, hnone])

end Plugin

/-! ## Runs -/

theorem Node.unread_of_nodup {n : Node} (h : (n.properties.map (·.name)).Nodup) :
    n.unread = n.unsupported := by
  unfold unread unsupported
  split
  · rfl
  · exact Instantiation.unused_of_nodup _ _ _ [] (fun _ _ => List.not_mem_nil) h

namespace Instantiation

theorem warnings_inspected (n : Node) (children : Attached) :
    Finding.warnings false (inspected n children) = n.unread := by
  unfold inspected Node.unread
  cases hp : Plugin.find? n.kind n.type with
  | none =>
    rw [Plugin.supported?_eq_none_iff.mpr hp]
    rfl
  | some p =>
    obtain ⟨names, hnames, hasked⟩ := Plugin.asked_of_find? hp
    rw [hnames, ← hasked children n.settings]
    exact (inspect_judged p n children).2

theorem warnings_told (e : Event) : Finding.warnings false e.told = e.unread := by
  cases e with
  | opened n => rfl
  | referred parent r target => cases target <;> rfl
  | closed n g outcome =>
    rw [Event.told, Event.unread]
    split
    · rfl
    · exact warnings_inspected n g.attached

/-- The nodes that end in a run are nodes of the forest. -/
theorem mem_preorder_of_closed {forest : List Node}
    (hindex : ((preorder forest).map (·.index)).Nodup) {n : Node} {g : Gathered}
    {outcome : Outcome} (h : .closed n g outcome ∈ runHistory forest) : n ∈ preorder forest := by
  have hclosed : n ∈ closed ((runHistory forest).map Event.mark) :=
    mem_closed.mpr (List.mem_map_of_mem h)
  rw [runHistory_marks hindex] at hclosed
  exact opened_subset_preorder forest ((closed_perm_opened [] forest).subset hclosed)

/-- **Unused properties are reported exactly.**  What is reported as unused, as a warning or in a
strict run as a problem, are the properties that are not supported for the kind and type of their
node, for each node that is visited and not aborted, in order.  Values, problems and children do not
matter, and nothing is reported for an unknown type.  Only of properties with one name in one node
more than one can be reported; no two properties of a node that is read have one name. -/
theorem run_unread :
    (∀ forest, Finding.warnings false (run forest).2 = (runHistory forest).flatMap Event.unread ∧
      (Finding.problems true (run forest).2).filter (·.isUnusedProperty) =
        ((runHistory forest).flatMap Event.unread).map Unused.problem) ∧
    (∀ n : Node, (n.properties.map (·.name)).Nodup → n.unread = n.unsupported) ∧
    (∀ kind type, Plugin.supported? kind type = none ↔ Plugin.find? kind type = none) ∧
    ∀ params elements, let forest := (Node.readForest params 0 elements).value
      (runHistory forest).map Event.mark = tourAll [] forest ∧
      ∀ n g outcome, .closed n g outcome ∈ runHistory forest → n.unread = n.unsupported := by
  refine ⟨fun forest => ?_, fun n => Node.unread_of_nodup,
    fun kind type => Plugin.supported?_eq_none_iff, fun params elements => ?_⟩
  · have hwarnings : Finding.warnings false (run forest).2 =
        (runHistory forest).flatMap Event.unread := by
      rw [run_warnings]
      exact congrArg (runHistory forest).flatMap (funext warnings_told)
    refine ⟨hwarnings, ?_⟩
    rw [(Finding.problems_strict (run_plain forest)).2, hwarnings]
  · have hindex := Node.readForest_index_nodup params 0 elements
    refine ⟨runHistory_marks hindex, fun n g outcome hclosed => ?_⟩
    have hn := mem_preorder_of_closed hindex hclosed
    obtain ⟨e, inner, -, -, hholds, -⟩ := Node.readForest_node hn
    exact Node.unread_of_nodup hholds.distinct

/-- A value of the wrong kind does not make a property unused. -/
example : Node.unread ⟨0, .filter, "gaussian", none, none, ⟨1, 1⟩,
    [⟨"width", .integer 3, ⟨2, 1⟩⟩, ⟨"stddev", .text "wide", ⟨3, 1⟩⟩], [], []⟩ =
      [⟨⟨.filter, "gaussian", none, ⟨1, 1⟩⟩, "width", ⟨2, 1⟩⟩] := by
  decide

end Instantiation

end SceneGraph
