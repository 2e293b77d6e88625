import SceneGraph.Proofs.Contributions
import SceneGraph.Proofs.Ownership
import SceneGraph.Proofs.Success

/-!
# The handles of a loaded scene

A scene is assembled from the roots and the arena of a run, so its shapes use the slots that
the drafts of the roots used (`addAll_shapes`), and the account of the run becomes one of the
scene (`assemble_wellOwned`).

* `Scene.WellOwned` says what holds of the handles of a scene.
* `text_wellOwned` says it of every scene that is loaded.
-/

namespace SceneGraph

namespace Scene

variable (scene : Scene)

/-- The bsdfs that shapes and two-sided bsdfs use, once for each use. -/
def bsdfUses : List BsdfHandle :=
  scene.bsdfs.flatMap (·.bsdf.sides) ++ scene.shapes.map (·.bsdf)

/-- The volumes that shapes use, once for each use. -/
def volumeUses : List VolumeHandle :=
  scene.shapes.flatMap fun s => s.interior.toList ++ s.exterior.toList

/-- Handles name what is there, bsdfs use only bsdfs before them, and what has no id is used
in one place at most. -/
structure WellOwned : Prop where
  bsdf : ∀ s ∈ scene.shapes, s.bsdf.index < scene.bsdfs.length
  interior : ∀ s ∈ scene.shapes, ∀ h, s.interior = some h → h.index < scene.volumes.length
  exterior : ∀ s ∈ scene.shapes, ∀ h, s.exterior = some h → h.index < scene.volumes.length
  ordered : ∀ (i : Nat) id front back, scene.bsdfs[i]? = some ⟨id, .twoSided front back⟩ →
    front.index < i ∧ ∀ h, back = some h → h.index < i
  bsdfOwned : ∀ (i : Nat) b, scene.bsdfs[i]? = some ⟨none, b⟩ → scene.bsdfUses.count ⟨i⟩ ≤ 1
  volumeOwned : ∀ (i : Nat) v, scene.volumes[i]? = some ⟨none, v⟩ →
    scene.volumeUses.count ⟨i⟩ ≤ 1

end Scene

/-- The slots that a shape uses. -/
def Shape.slots (s : Shape) : List Slot :=
  .bsdf s.bsdf :: (s.interior.toList ++ s.exterior.toList).map .volume

namespace Assembly

open Instantiation (Root rootSlots)

/-! ## Shapes of roots -/

/-- A draft that becomes a shape has one bsdf, and the shape uses what the draft used. -/
theorem shape_slots {d : ShapeDraft} {s : Shape} (h : (shape d).value? = some s) :
    s.slots = d.slots := by
  obtain ⟨node, surface, toWorld, flipNormals, bsdfs, emitters, interior, exterior⟩ := d
  match bsdfs with
  | [] => cases h
  | [bsdf] =>
    have hvalue : (shape ⟨node, surface, toWorld, flipNormals, [bsdf], emitters, interior,
        exterior⟩).value? = (shapeEmitter node emitters).value?.map fun emitter =>
          ⟨node.id, surface, toWorld, flipNormals, bsdf, emitter, interior, exterior,
            node.location⟩ := by
      unfold shape
      cases hemitter : (shapeEmitter node emitters).value? <;>
        simp [Checked.andThen, Checked.both, shapeBsdf, Checked.of, hemitter]
    rw [hvalue] at h
    obtain ⟨emitter, -, rfl⟩ := Option.map_eq_some_iff.mp h
    rfl
  | _ :: _ :: _ => cases h

/-- The shapes of a scene use what the roots used. -/
theorem addAll_shapes (roots : List Root) (parts : Parts) :
    ∃ shapes, (parts.addAll roots).1.shapes = parts.shapes ++ shapes ∧
      (shapes.flatMap Shape.slots).Sublist (rootSlots roots) := by
  refine ⟨roots.filterMap Root.shape?, by rw [Parts.addAll_eq], ?_⟩
  induction roots with
  | nil => exact List.Sublist.refl _
  | cons root roots ih =>
    have hslots : rootSlots (root :: roots) = root.object.slots ++ rootSlots roots :=
      List.flatMap_cons
    rw [List.filterMap_cons, hslots]
    cases hshape : root.shape? with
    | none => exact ih.trans (List.sublist_append_right _ _)
    | some s =>
      obtain ⟨d, hobject, hs⟩ := Root.shape?_eq_some.mp hshape
      rw [List.flatMap_cons, shape_slots hs, hobject]
      exact (List.Sublist.refl _).append ih

/-! ## Scenes of instantiations -/

theorem map_bsdf_sublist (shapes : List Shape) :
    ((shapes.map (·.bsdf)).map Slot.bsdf).Sublist (shapes.flatMap Shape.slots) := by
  induction shapes with
  | nil => exact List.Sublist.refl _
  | cons s shapes ih =>
    rw [List.flatMap_cons]
    exact List.Sublist.append (List.singleton_sublist.mpr List.mem_cons_self) ih

theorem map_volumes_sublist (shapes : List Shape) :
    ((shapes.flatMap fun s => s.interior.toList ++ s.exterior.toList).map Slot.volume).Sublist
      (shapes.flatMap Shape.slots) := by
  induction shapes with
  | nil => exact List.Sublist.refl _
  | cons s shapes ih =>
    rw [List.flatMap_cons, List.flatMap_cons, List.map_append]
    exact List.Sublist.append (List.sublist_cons_self _ _) ih

/-- The account of a run is one of the scene that is assembled from it. -/
theorem assemble_wellOwned {version : Version} {params : Parameter.Table} {inst : Instantiation}
    {scene : Scene} (hordered : inst.arena.Ordered)
    (hheld : ∀ x ∈ rootSlots inst.roots, inst.arena.id? x ≠ none)
    (howned : ∀ x, inst.arena.id? x = some none →
      inst.arena.uses.count x + (rootSlots inst.roots).count x ≤ 1)
    (h : assemble version params inst = .ok scene) : scene.WellOwned := by
  obtain ⟨-, hassembled⟩ := assemble_ok h
  have hbsdfs : scene.bsdfs = inst.arena.bsdfs := by rw [hassembled]
  have hvolumes : scene.volumes = inst.arena.volumes := by rw [hassembled]
  obtain ⟨shapes, hadded, hsublist⟩ := addAll_shapes inst.roots Parts.empty
  have hscene : (scene.shapes.flatMap Shape.slots).Sublist (rootSlots inst.roots) := by
    rw [hassembled, hadded]
    exact hsublist
  have hslots : ∀ s ∈ scene.shapes, ∀ x ∈ s.slots, inst.arena.id? x ≠ none :=
    fun s hs x hx => hheld x (hscene.subset (List.mem_flatMap.mpr ⟨s, hs, hx⟩))
  have hvolume : ∀ s ∈ scene.shapes, ∀ h ∈ s.interior.toList ++ s.exterior.toList,
      h.index < scene.volumes.length := by
    intro s hs h hh
    rw [hvolumes]
    exact Arena.lt_of_held_volume
      (hslots s hs _ (List.mem_cons_of_mem _ (List.mem_map_of_mem hh)))
  constructor
  · intro s hs
    rw [hbsdfs]
    exact Arena.lt_of_held_bsdf (hslots s hs _ List.mem_cons_self)
  · intro s hs h hh
    exact hvolume s hs h (by simp [hh])
  · intro s hs h hh
    exact hvolume s hs h (by simp [hh])
  · intro i id front back he
    rw [hbsdfs] at he
    have hlt : ∀ h ∈ front :: back.toList, h.index < i := by
      intro h hh
      obtain ⟨h', heq, hindex⟩ := hordered i _ he (.bsdf h) (List.mem_map_of_mem hh)
      rw [Slot.bsdf.inj heq]
      exact hindex
    refine ⟨hlt front List.mem_cons_self, fun h hh => hlt h ?_⟩
    simp [hh]
  · intro i b he
    rw [hbsdfs] at he
    have hanonymous : inst.arena.id? (.bsdf ⟨i⟩) = some none := by simp [Arena.id?, he]
    have harena : (scene.bsdfs.flatMap (·.bsdf.sides)).count ⟨i⟩ =
        inst.arena.uses.count (.bsdf ⟨i⟩) := by
      rw [← List.count_map_of_injective _ _ Slot.bsdf_injective, List.map_flatMap, hbsdfs]
      rfl
    have hroots : (scene.shapes.map (·.bsdf)).count ⟨i⟩ ≤
        (rootSlots inst.roots).count (.bsdf ⟨i⟩) := by
      rw [← List.count_map_of_injective _ _ Slot.bsdf_injective]
      exact ((map_bsdf_sublist _).trans hscene).count_le _
    have htotal := howned _ hanonymous
    rw [Scene.bsdfUses, List.count_append]
    omega
  · intro i v he
    rw [hvolumes] at he
    have hanonymous : inst.arena.id? (.volume ⟨i⟩) = some none := by simp [Arena.id?, he]
    have hroots : scene.volumeUses.count ⟨i⟩ ≤ (rootSlots inst.roots).count (.volume ⟨i⟩) := by
      rw [← List.count_map_of_injective _ _ Slot.volume_injective]
      exact ((map_volumes_sublist _).trans hscene).count_le _
    have htotal := howned _ hanonymous
    omega

end Assembly

/-! ## Top theorem -/

/-- A scene that is loaded was assembled from a run over nodes. -/
theorem Load.exists_of_text_ok {options : Options} {source : String} {scene : Scene}
    (h : (Load.text options source).result = .ok scene) :
    ∃ version params forest,
      Assembly.assemble version params (Instantiation.run forest).1 = .ok scene := by
  obtain ⟨root, -, hload⟩ := text_ok_iff.mp h
  obtain ⟨version, -, hassemble⟩ := hload.scene
  exact ⟨version, _, _, hassemble⟩

/-- The handles of every scene that is loaded are well owned. -/
theorem Load.text_wellOwned (options : Options) (source : String) (scene : Scene)
    (h : (Load.text options source).result = .ok scene) : scene.WellOwned := by
  obtain ⟨version, params, forest, hassemble⟩ := Load.exists_of_text_ok h
  obtain ⟨hordered, hheld, howned⟩ := Instantiation.run_owned forest
  exact Assembly.assemble_wellOwned hordered hheld howned hassemble

/-- A shape with one bsdf for both sides. -/
def coatedCube : String :=
  "<scene version=\"2.1.0\"><sensor type=\"orthographic\"><sampler type=\"independent\"/>" ++
    "<film type=\"hdrfilm\"/></sensor><shape type=\"cube\"><bsdf type=\"twosided\">" ++
    "<bsdf type=\"conductor\"/></bsdf></shape></scene>"

theorem Load.text_wellOwned_coatedCube :
    ∃ scene, (Load.text ⟨[], false⟩ coatedCube).result = .ok scene ∧
      scene.bsdfs.length = 2 ∧ scene.shapes.length = 1 ∧ scene.WellOwned := by
  have hload : (Load.text ⟨[], false⟩ coatedCube).result.toOption.any (fun scene =>
      scene.bsdfs.length == 2 && scene.shapes.length == 1) = true := by
    decide +kernel
  obtain ⟨scene, hscene, hholds⟩ := exists_of_any hload
  have hlengths : scene.bsdfs.length = 2 ∧ scene.shapes.length = 1 := by simpa using hholds
  exact ⟨scene, hscene, hlengths.1, hlengths.2,
    Load.text_wellOwned ⟨[], false⟩ coatedCube scene hscene⟩

end SceneGraph
