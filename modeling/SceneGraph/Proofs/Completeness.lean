import SceneGraph.Proofs.FinalValues
import SceneGraph.Proofs.SilentRun
import SceneGraph.Proofs.Success

/-!
# A loaded scene holds all that its description declares

Each stage of a load leaves something out only together with a report, so a load that succeeds
leaves nothing out (`text_complete`): reading by `Node.readForest_labels`, building by
`Instantiation.run_silent`, the parameters by `Table.settled_eq`, and the check of the scene by
`addAll_gains`.
-/

namespace SceneGraph

open Markup

namespace Assembly

open Instantiation (Fulfils Root)

/-- From some parts of a scene to those with the objects of some nodes behind. -/
structure Gains (parts : Parts) (nodes : List Node) (parts' : Parts) : Prop where
  integrator : parts'.integrator.toList.map (·.id) =
    parts.integrator.toList.map (·.id) ++ (nodes.filter (·.kind = .integrator)).map (·.id)
  sensors : parts'.sensors.map (·.id) =
    parts.sensors.map (·.id) ++ (nodes.filter (·.kind = .sensor)).map (·.id)
  emitters : parts'.emitters.map (·.id) =
    parts.emitters.map (·.id) ++ (nodes.filter (·.kind = .emitter)).map (·.id)
  shapes : parts'.shapes.map (fun s => (s.id, s.location)) =
    parts.shapes.map (fun s => (s.id, s.location)) ++
      (nodes.filter (·.kind = .shape)).map fun n => (n.id, n.location)

theorem Gains.append {parts parts' parts'' : Parts} {ms ns : List Node}
    (h : Gains parts ms parts') (h' : Gains parts' ns parts'') :
    Gains parts (ms ++ ns) parts'' where
  integrator := append_of_kind h.integrator h'.integrator
  sensors := append_of_kind h.sensors h'.sensors
  emitters := append_of_kind h.emitters h'.emitters
  shapes := append_of_kind h.shapes h'.shapes

/-! ## Drafts that are checked in silence -/

instance reports_breaks {α : Type} (node : NodeRef) (rule : Violation) :
    Checked.Reports (breaks node rule : Checked α) := Checked.reports_fail _

instance reports_positiveCount (node : NodeRef) (property : String) (n : Int) :
    Checked.Reports (positiveCount node property n) := by
  unfold positiveCount
  split <;> infer_instance

instance reports_seed (node : NodeRef) (n : Int) : Checked.Reports (seed node n) := by
  unfold seed
  split <;> infer_instance

instance reports_sampler (d : SamplerDraft) : Checked.Reports (sampler d) := by
  unfold sampler
  infer_instance

instance reports_film (d : FilmDraft) : Checked.Reports (film d) := by
  unfold film
  infer_instance

instance reports_shapeBsdf (node : NodeRef) (hs : List BsdfHandle) :
    Checked.Reports (shapeBsdf node hs) := by
  unfold shapeBsdf
  split <;> infer_instance

instance reports_shapeEmitter (node : NodeRef) (es : List Emitter) :
    Checked.Reports (shapeEmitter node es) := by
  unfold shapeEmitter
  split
  · infer_instance
  · split <;> infer_instance
  · infer_instance

theorem single_silent {α : Type} {node : NodeRef} {rule : Nat → Violation} {as : List α}
    (h : (single node rule as).problems = []) : ∃ a, as = [a] := by
  match as with
  | [a] => exact ⟨a, rfl⟩
  | [] => cases h
  | _ :: _ :: _ => cases h

/-- A sensor that is checked in silence has its sampler and its film. -/
theorem sensor_silent {d : SensorDraft} (h : (sensor d).problems = []) :
    ∃ s, (sensor d).value? = some s ∧ s.id = d.node.id := by
  unfold sensor at h ⊢
  dsimp only at h ⊢
  obtain ⟨hcounts, hparts⟩ := List.append_eq_nil_iff.mp (Checked.silent_first h)
  obtain ⟨hsamplers, hfilms⟩ := List.append_eq_nil_iff.mp hcounts
  obtain ⟨x, hx⟩ := single_silent hsamplers
  obtain ⟨y, hy⟩ := single_silent hfilms
  obtain ⟨hsampler, hfilm⟩ := List.append_eq_nil_iff.mp hparts
  rw [hx] at hsampler
  rw [hy] at hfilm
  obtain ⟨sx, hsx⟩ := Checked.Reports.exists_of_silent
    (Checked.silent_of_mem hsampler _ (List.mem_map_of_mem (List.mem_singleton_self x)))
  obtain ⟨fy, hfy⟩ := Checked.Reports.exists_of_silent
    (Checked.silent_of_mem hfilm _ (List.mem_map_of_mem (List.mem_singleton_self y)))
  rw [hx, hy, List.map_singleton, List.map_singleton, hsx, hfy]
  exact ⟨_, rfl, rfl⟩

theorem shape_silent {d : ShapeDraft} (h : (shape d).problems = []) :
    ∃ s, (shape d).value? = some s ∧ s.id = d.node.id ∧ s.location = d.node.location := by
  unfold shape at h ⊢
  obtain ⟨⟨bsdf, emitter⟩, hparts, -⟩ := Checked.silent_bind h
  rw [hparts]
  exact ⟨_, rfl, rfl, rfl⟩

/-! ## Roots that are added in silence -/

/-- What is built for a node contributes to the scene what the node declares. -/
theorem add_gains {parts : Parts} {n : Node} {root : Root} (hroot : Fulfils n root)
    (h : (parts.add root).2 = []) : Gains parts [n] (parts.add root).1 := by
  have hof := hroot.object
  unfold Parts.add at h ⊢
  cases hobject : root.object with
  | integrator i =>
    rw [hobject] at hof h
    obtain ⟨hkind, hid⟩ : n.kind = .integrator ∧ i.id = n.id := hof
    dsimp only at h ⊢
    split at h
    · cases h
    · next hnone =>
      have hempty : parts.integrator = none := by simpa using hnone
      constructor <;> simp [hkind, hempty, hid]
  | sensor d =>
    rw [hobject] at hof h
    obtain ⟨hkind, hnode⟩ : n.kind = .sensor ∧ d.node = n.ref := hof
    obtain ⟨s, hs, hid⟩ := sensor_silent h
    constructor <;> simp [hkind, hs, hid, hnode, Node.ref]
  | emitter e =>
    rw [hobject] at hof h
    obtain ⟨hkind, hid⟩ : n.kind = .emitter ∧ e.id = n.id := hof
    dsimp only at h ⊢
    split at h
    · cases h
    · next harea => constructor <;> simp [hkind, harea, hid]
  | shape d =>
    rw [hobject] at hof h
    obtain ⟨hkind, hnode⟩ : n.kind = .shape ∧ d.node = n.ref := hof
    obtain ⟨s, hs, hid, hlocation⟩ := shape_silent h
    constructor <;> simp [hkind, hs, hid, hlocation, hnode, Node.ref]
  -- the other kinds are no part of their own
  | sampler d =>
    rw [hobject] at hof
    obtain ⟨hkind, -⟩ : n.kind = .sampler ∧ d.node = n.ref := hof
    constructor <;> simp [Parts.named, hkind]
  | film d =>
    rw [hobject] at hof
    obtain ⟨hkind, -⟩ : n.kind = .film ∧ d.node = n.ref := hof
    constructor <;> simp [Parts.named, hkind]
  | filter f =>
    rw [hobject] at hof
    have hkind : n.kind = .filter := hof
    constructor <;> simp [Parts.named, hkind]
  | bsdf b =>
    rw [hobject] at hof
    have hkind : n.kind = .bsdf := hof
    constructor <;> simp [hkind]
  | volume v =>
    rw [hobject] at hof
    have hkind : n.kind = .volume := hof
    constructor <;> simp [hkind]

theorem addAll_gains {nodes : List Node} {roots : List Root}
    (hroots : List.Forall₂ Fulfils nodes roots) : ∀ parts : Parts,
    (parts.addAll roots).2 = [] → Gains parts nodes (parts.addAll roots).1 := by
  induction hroots with
  | nil =>
    intro parts _
    constructor <;> simp [Parts.addAll]
  | cons hroot hroots ih =>
    intro parts h
    rw [Parts.addAll] at h ⊢
    obtain ⟨hadd, hall⟩ := List.append_eq_nil_iff.mp h
    exact (add_gains hroot hadd).append (ih _ hall)

/-! ## Scenes -/

theorem eq_nil_of_distinct {problems : List Problem} (h : distinct problems = []) :
    problems = [] := by
  rw [List.eq_nil_iff_forall_not_mem] at h ⊢
  exact fun p hp => h p (mem_distinct.mpr hp)

theorem assemble_gains {version : Version} {params : Parameter.Table} {inst : Instantiation}
    {scene : Scene} {nodes : List Node} (hroots : List.Forall₂ Fulfils nodes inst.roots)
    (h : assemble version params inst = .ok scene) :
    Gains Parts.empty nodes
        ⟨scene.integrator, scene.sensors, scene.emitters, scene.shapes⟩ ∧
      scene.bsdfs = inst.arena.bsdfs ∧ scene.volumes = inst.arena.volumes ∧
      scene.parameters = parameters params := by
  obtain ⟨⟨hfound, -⟩, rfl⟩ := assemble_ok h
  exact ⟨addAll_gains hroots Parts.empty (eq_nil_of_distinct hfound), rfl, rfl, rfl⟩

end Assembly

/-! ## Top theorem -/

namespace Load

/-- The id of an element with its parameters substituted, if it has one. -/
def idOf (options : Options) (root e : Element) : Checked (Option String) :=
  Attribute.value? (parameters options root) e "id"

/-- A scene with all that the children of a root declare, in order and once, and nothing else.
The bsdfs and volumes are those of elements at any depth, in the order in which they end. -/
structure Complete (options : Options) (root : Element) (scene : Scene) : Prop where
  /-- There is one exactly where the root has one, and the root has at most one. -/
  integrator : scene.integrator.toList.map (fun i => Checked.of i.id) =
    (root.children.filter (·.tag = "integrator")).map (idOf options root)
  sensors : scene.sensors.map (fun s => Checked.of s.id) =
    (root.children.filter (·.tag = "sensor")).map (idOf options root)
  emitters : scene.emitters.map (fun e => Checked.of e.id) =
    (root.children.filter (·.tag = "emitter")).map (idOf options root)
  shapes : scene.shapes.map (fun s => (Checked.of s.id, s.location)) =
    (root.children.filter (·.tag = "shape")).map fun e => (idOf options root e, e.location)
  bsdfs : scene.bsdfs.map (fun b => Checked.of b.id) =
    ((Element.nodesAll root.children).filter (·.tag = "bsdf")).map (idOf options root)
  volumes : scene.volumes.map (fun v => Checked.of v.id) =
    ((Element.nodesAll root.children).filter (·.tag = "volume")).map (idOf options root)
  /-- In another order, that of the names. -/
  parameters : (scene.parameters.map some).Perm
    ((root.children.filter (·.tag = "default")).map
      (Parameter.Table.finalSetting? options.overrides))
  names : (scene.parameters.map (·.1)).Nodup

theorem complete_of_succeeds {options : Options} {root : Element} {scene : Scene}
    (h : Succeeds options root scene) : Complete options root scene := by
  obtain ⟨version, -, hassemble⟩ := h.scene
  obtain ⟨htop, hall⟩ := Node.readForest_mirrors h.nodes
  obtain ⟨hroots, hrecords⟩ := Instantiation.run_silent (Finding.silent_of_problems h.objects)
  obtain ⟨hgains, hbsdfs, hvolumes, hparameters⟩ := Assembly.assemble_gains hroots hassemble
  constructor
  · exact htop.ids hgains.integrator
  · exact htop.ids hgains.sensors
  · exact htop.ids hgains.emitters
  · exact htop.places hgains.shapes
  · rw [hbsdfs]
    exact hall.ids hrecords.bsdfs
  · rw [hvolumes]
    exact hall.ids hrecords.volumes
  · rw [hparameters, ← Parameter.Table.settled_eq h.defaults h.overrides]
    have hperm := (Assembly.parameters_perm (parameters options root)).map some
    rw [List.map_map] at hperm
    exact hperm
  · rw [hparameters, ((Assembly.parameters_perm _).map (·.1)).nodup_iff, List.map_map]
    exact Parameter.Table.settled_nodup

/-- A scene that is loaded is complete. -/
theorem text_complete (options : Options) (source : String) (scene : Scene)
    (h : (text options source).result = .ok scene) :
    ∃ root, read source = .ok root ∧ Complete options root scene := by
  obtain ⟨root, hread, hload⟩ := text_ok_iff.mp h
  exact ⟨root, hread, complete_of_succeeds hload⟩

/-- A description with a parameter in an id, a nested bsdf and a volume. -/
def foggyCube : String :=
  "<scene version=\"2.1.0\"><default name=\"s\" value=\"a\"/><sensor type=\"orthographic\">" ++
    "<sampler type=\"independent\"/><film type=\"hdrfilm\"/></sensor><shape type=\"cube\">" ++
    "<bsdf type=\"twosided\" id=\"$s\"><bsdf type=\"conductor\"/></bsdf>" ++
    "<volume name=\"interior\" type=\"homogeneous\"/></shape></scene>"

theorem text_complete_foggyCube :
    ∃ scene root, (text ⟨[("s", "b")], false⟩ foggyCube).result = .ok scene ∧
      read foggyCube = .ok root ∧ scene.bsdfs.map (·.id) = [none, some "b"] ∧
      scene.parameters = [("s", "b")] ∧ Complete ⟨[("s", "b")], false⟩ root scene := by
  have hload : (text ⟨[("s", "b")], false⟩ foggyCube).result.toOption.any (fun scene =>
      scene.bsdfs.map (·.id) == [none, some "b"] && scene.parameters == [("s", "b")]) = true := by
    decide +kernel
  obtain ⟨scene, hscene, hholds⟩ := exists_of_any hload
  obtain ⟨hbsdfs, hparameters⟩ := Bool.and_eq_true_iff.mp hholds
  obtain ⟨root, hread, hcomplete⟩ := text_complete ⟨[("s", "b")], false⟩ foggyCube scene hscene
  exact ⟨scene, root, hscene, hread, eq_of_beq hbsdfs, eq_of_beq hparameters, hcomplete⟩

end Load

end SceneGraph
