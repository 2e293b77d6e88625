import Mathlib.Data.List.Count
import SceneGraph.Instantiation

/-!
# Which bsdfs and volumes an object uses

Bsdfs and volumes stand in slots of the arena (`Slot`).  An object that is itself a bsdf or
volume is its slot (`Object.slot?`), and a shape uses the slots of all that it was given
(`Object.slots`).  No plugin makes up a slot or uses one more often than the children of its
node hand it over (`frugal_of_find?`), and none passes a child's slot on as its own object.
-/

namespace SceneGraph

inductive Slot where
  | bsdf (h : BsdfHandle)
  | volume (h : VolumeHandle)
deriving DecidableEq

/-- The bsdfs that a bsdf is made of. -/
def Bsdf.sides : Bsdf → List BsdfHandle
  | .twoSided front back => front :: back.toList
  | _ => []

def Bsdf.slots (b : Bsdf) : List Slot := b.sides.map .bsdf

def ShapeDraft.slots (d : ShapeDraft) : List Slot :=
  d.bsdfs.map .bsdf ++ (d.interior.toList ++ d.exterior.toList).map .volume

namespace Object

/-- The slot that an object is. -/
def slot? : Object → Option Slot
  | .bsdf h => some (.bsdf h)
  | .volume h => some (.volume h)
  | _ => none

/-- The slots that an object uses, itself among them. -/
def slots : Object → List Slot
  | .shape d => d.slots
  | o => o.slot?.toList

end Object

/-- The slots that a product uses before it gets its own. -/
def Product.slots : Product → List Slot
  | .object o => o.slots
  | .bsdf b => b.slots
  | .volume _ => []

/-- The slots that the children of a node are. -/
def Attached.slots (a : Attached) : List Slot := a.items.filterMap (·.object.slot?)

/-- A product that is no slot and uses slots at most as often as they are handed over. -/
structure Product.Within (available : List Slot) (p : Product) : Prop where
  plain : ∀ o, p = .object o → o.slot? = none
  uses : ∀ x, p.slots.count x ≤ available.count x

/-- A plugin that uses each slot at most as often as the children are it. -/
def Plugin.Frugal (p : Plugin) : Prop :=
  ∀ children s product, (p.build children s).1 = some product → product.Within children.slots

/-! ## Lemmas -/

theorem Slot.bsdf_injective : Function.Injective Slot.bsdf := fun _ _ h => Slot.bsdf.inj h

theorem Slot.volume_injective : Function.Injective Slot.volume := fun _ _ h => Slot.volume.inj h

theorem Object.slot?_sublist (o : Object) : o.slot?.toList.Sublist o.slots := by
  cases o with
  | shape d => exact List.nil_sublist _
  | _ => exact List.Sublist.refl _

theorem Product.Within.mem {available : List Slot} {p : Product} (h : p.Within available)
    {x : Slot} (hx : x ∈ p.slots) : x ∈ available :=
  List.count_pos_iff.mp (Nat.lt_of_lt_of_le (List.count_pos_iff.mpr hx) (h.uses x))

theorem Attached.slots_cons (item : Attachment) (items : List Attachment)
    (failed : List NodeKind) :
    (⟨item :: items, failed⟩ : Attached).slots =
      item.object.slot?.toList ++ (⟨items, failed⟩ : Attached).slots := by
  unfold slots
  rw [List.filterMap_cons]
  cases item.object.slot? <;> rfl

/-- The children that are slots are the bsdfs and the volumes. -/
theorem Attached.slots_perm (a : Attached) :
    a.slots.Perm (a.bsdfs.map .bsdf ++ (a.volumes.map (·.2)).map .volume) := by
  obtain ⟨items, failed⟩ := a
  induction items with
  | nil => exact List.Perm.refl _
  | cons item items ih =>
    obtain ⟨name, object, l, byReference⟩ := item
    cases object with
    | bsdf h => exact ih.cons (.bsdf h)
    | volume h => exact (ih.cons (.volume h)).trans List.perm_middle.symm
    | _ => exact ih

theorem Product.within_of_slots_nil {available : List Slot} {o : Object} (h : o.slots = []) :
    (Product.object o).Within available := by
  have hslot : o.slot?.toList = [] := List.sublist_nil.mp (h ▸ o.slot?_sublist)
  constructor
  · intro o' ho
    obtain rfl := Product.object.inj ho
    simpa using hslot
  · intro x
    show o.slots.count x ≤ _
    rw [h]
    exact Nat.zero_le _

theorem Product.within_of_bsdf {available : List Slot} {b : Bsdf}
    (h : ∀ x, b.slots.count x ≤ available.count x) : (Product.bsdf b).Within available :=
  ⟨fun _ ho => (nomatch ho), h⟩

/-! ## Plugins -/

namespace Plugin

open Inspect

/-- A plugin whose objects use no slots. -/
theorem frugal_of_slots_nil {p : Plugin}
    (h : ∀ children s, ∃ o, (p.build children s).1 = some (.object o) ∧ o.slots = []) :
    Frugal p := by
  intro children s product hproduct
  obtain ⟨o, ho, hslots⟩ := h children s
  rw [ho] at hproduct
  obtain rfl := Option.some.inj hproduct
  exact Product.within_of_slots_nil hslots

theorem frugal_viewPlugins : ∀ p ∈ viewPlugins, Frugal p := by
  simp only [viewPlugins, List.forall_mem_cons]
  refine ⟨?_, ?_, ?_, ?_, ?_, ?_, ?_, ?_, ?_, ?_, ?_, ?_, ?_, by simp⟩
  all_goals exact frugal_of_slots_nil fun children s => ⟨_, rfl, rfl⟩

/-- A two-sided bsdf is made of the one or two bsdfs that its node has. -/
theorem twoSidedPlugin_cases (children : Attached) (s : Settings) :
    (twoSidedPlugin.build children s).1 = none ∨
      ∃ front back, children.bsdfs = front :: back.toList ∧
        (twoSidedPlugin.build children s).1 = some (.bsdf (.twoSided front back)) := by
  unfold twoSidedPlugin
  dsimp only
  generalize children.bsdfs = sides, children.failedCount .bsdf = failed
  match sides, failed with
  | [front], 0 => exact .inr ⟨front, none, rfl, rfl⟩
  | [front, back], 0 => exact .inr ⟨front, some back, rfl, rfl⟩
  | [], _ => exact .inl rfl
  | [_], _ + 1 => exact .inl rfl
  | [_, _], _ + 1 => exact .inl rfl
  | _ :: _ :: _ :: _, _ => exact .inl rfl

theorem frugal_twoSidedPlugin : Frugal twoSidedPlugin := by
  intro children s product hproduct
  obtain h | ⟨front, back, hbsdfs, h⟩ := twoSidedPlugin_cases children s
  · rw [h] at hproduct
    cases hproduct
  · rw [h] at hproduct
    obtain rfl := Option.some.inj hproduct
    apply Product.within_of_bsdf
    intro x
    rw [children.slots_perm.count_eq, List.count_append, hbsdfs]
    exact Nat.le_add_right _ _

theorem frugal_bsdfPlugin (type : String) {settings : Inspect Bsdf}
    (h : ∀ s, (settings s).1.slots = []) : Frugal (bsdfPlugin type settings) := by
  intro children s product hproduct
  have hbuild : ((bsdfPlugin type settings).build children s).1 = some (.bsdf (settings s).1) := rfl
  rw [hbuild] at hproduct
  obtain rfl := Option.some.inj hproduct
  apply Product.within_of_bsdf
  intro x
  rw [h s]
  exact Nat.zero_le _

theorem frugal_homogeneousPlugin : Frugal homogeneousPlugin := by
  intro children s product hproduct
  obtain ⟨v, hv⟩ : ∃ v, (homogeneousPlugin.build children s).1 = some (.volume v) := ⟨_, rfl⟩
  rw [hv] at hproduct
  obtain rfl := Option.some.inj hproduct
  exact ⟨fun _ ho => (nomatch ho), fun _ => Nat.zero_le _⟩

theorem frugal_materialPlugins : ∀ p ∈ materialPlugins, Frugal p := by
  simp only [materialPlugins, List.forall_mem_cons]
  refine ⟨?_, frugal_twoSidedPlugin, ?_, ?_, ?_, ?_, frugal_homogeneousPlugin, by simp⟩
  all_goals exact frugal_bsdfPlugin _ fun s => rfl

/-- A volume is put on one side or on none. -/
theorem placeVolumes_cons (sides : Sides) (a : Attachment) (h : VolumeHandle)
    (rest : List (Attachment × VolumeHandle)) (s : Settings) :
    ∃ sides', (placeVolumes sides ((a, h) :: rest) s).1 = (placeVolumes sides' rest s).1 ∧
      (sides' = { sides with interior := some h } ∨ sides' = { sides with exterior := some h } ∨
        sides' = sides) := by
  rw [placeVolumes]
  by_cases hin : a.name = some "interior"
  · rw [if_pos hin]
    exact ⟨_, rfl, .inl rfl⟩
  · rw [if_neg hin]
    by_cases hex : a.name = some "exterior"
    · rw [if_pos hex]
      exact ⟨_, rfl, .inr (.inl rfl)⟩
    · rw [if_neg hex]
      exact ⟨_, rfl, .inr (.inr rfl)⟩

/-- The volumes that a shape keeps are among those that it is given. -/
theorem placeVolumes_count (s : Settings) (x : VolumeHandle)
    (items : List (Attachment × VolumeHandle)) : ∀ sides,
    ((placeVolumes sides items s).1.interior.toList ++
      (placeVolumes sides items s).1.exterior.toList).count x ≤
    (sides.interior.toList ++ sides.exterior.toList).count x + (items.map (·.2)).count x := by
  induction items with
  | nil =>
    intro sides
    exact Nat.le_refl _
  | cons item rest ih =>
    obtain ⟨a, h⟩ := item
    intro sides
    obtain ⟨sides', hplaced, hsides⟩ := placeVolumes_cons sides a h rest s
    have hrest := ih sides'
    rw [hplaced, List.map_cons, List.count_cons]
    simp only [List.count_append] at hrest ⊢
    obtain rfl | rfl | rfl := hsides
    · simp only [Option.toList_some, List.count_singleton] at hrest
      omega
    · simp only [Option.toList_some, List.count_singleton] at hrest
      omega
    · omega

theorem frugal_shapePlugin (type : String) (settings : Inspect Surface) :
    Frugal (shapePlugin type settings) := by
  intro children s product hproduct
  obtain ⟨node, surface, toWorld, flipNormals, h⟩ :
      ∃ node surface toWorld flipNormals, ((shapePlugin type settings).build children s).1 =
        some (.object (.shape ⟨node, surface, toWorld, flipNormals, children.bsdfs,
          children.emitters, (placeVolumes ⟨none, none⟩ children.volumes s).1.interior,
          (placeVolumes ⟨none, none⟩ children.volumes s).1.exterior⟩)) :=
    ⟨_, _, _, _, rfl⟩
  rw [h] at hproduct
  obtain rfl := Option.some.inj hproduct
  constructor
  · intro o ho
    obtain rfl := Product.object.inj ho
    rfl
  · intro x
    rw [children.slots_perm.count_eq, List.count_append]
    show (List.map Slot.bsdf _ ++ List.map Slot.volume _).count x ≤ _
    rw [List.count_append]
    apply Nat.add_le_add_left
    cases x with
    | bsdf h =>
      rw [List.count_eq_zero_of_not_mem (by simp)]
      exact Nat.zero_le _
    | volume h =>
      rw [List.count_map_of_injective _ _ Slot.volume_injective,
        List.count_map_of_injective _ _ Slot.volume_injective]
      have hcount := placeVolumes_count s h children.volumes ⟨none, none⟩
      simpa using hcount

theorem frugal_bodyPlugins : ∀ p ∈ bodyPlugins, Frugal p := by
  simp only [bodyPlugins, List.forall_mem_cons]
  refine ⟨?_, ?_, ?_, ?_, ?_, ?_, ?_, ?_, ?_, ?_, ?_, by simp⟩
  rotate_left 5
  · exact frugal_shapePlugin _ _
  · exact frugal_shapePlugin _ _
  · exact frugal_shapePlugin _ _
  · exact frugal_shapePlugin _ _
  · exact frugal_shapePlugin _ _
  · exact frugal_shapePlugin _ _
  all_goals exact frugal_of_slots_nil fun children s => ⟨_, rfl, rfl⟩

/-- No plugin uses a slot more often than it is handed over. -/
theorem frugal_of_find? {kind : NodeKind} {type : String} {p : Plugin}
    (h : find? kind type = some p) : Frugal p :=
  forall_of_find? frugal_viewPlugins frugal_materialPlugins frugal_bodyPlugins h

end Plugin

end SceneGraph
