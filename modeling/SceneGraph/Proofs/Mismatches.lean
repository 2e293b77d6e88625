import SceneGraph.Proofs.Inspection
import SceneGraph.Proofs.Origins

/-!
# Children of a kind that does not fit

A node takes children of some kinds (`childKinds`).  What is reported where a child stands is
known from the node, the child and its object alone (`Child.fault?`): nothing, if the object fits,
and one mismatch otherwise.  `inspect_mismatches` says so of what is found about a node, as long as
no property and no other child stands in the same place.

Only the plugins of shapes look closer at some of their children, the volumes.
-/

namespace SceneGraph

/-! ## Definitions -/

/-- A mismatch that is reported at a position. -/
def Problem.isMismatchAt (l : Location) : Problem → Bool
  | typeMismatch m _ _ _ => m = l
  | _ => false

def Finding.isMismatchAt (l : Location) : Finding → Bool
  | problem p => p.isMismatchAt l
  | unused _ => false

/-- The kinds of child that the nodes of a kind and type take. -/
def childKinds (kind : NodeKind) (type : String) : List NodeKind :=
  match kind with
  | .sensor => [.sampler, .film]
  | .film => [.filter]
  | .bsdf => if type = "twosided" then [.bsdf] else []
  | .shape => [.bsdf, .emitter, .volume]
  | _ => []

namespace Child

/-- The name on a nested node or on a reference. -/
def name : Child → Option String
  | nested n => n.name
  | reference r => r.name

/-- What a child with an object of a kind is called where it does not fit. -/
def found (k : NodeKind) : Child → Found
  | nested _ => .nested k
  | reference _ => .reference k

/-- How a report tells a nested node from a reference. -/
def attachedAs : Child → String
  | nested _ => "nested "
  | reference _ => "reference to a "

/-- An object as the child that it was built for, or that refers to it. -/
def attach (o : Object) : Child → Attachment
  | nested n => ⟨n.name, o, n.location, false⟩
  | reference r => ⟨r.name, o, r.location, true⟩

/-- What is wrong with the object `o` as the child `c` of a node. -/
def fault? (n : Node) (c : Child) (o : Object) : Option Problem :=
  if o.kind ∉ childKinds n.kind n.type then
    some (.typeMismatch c.location (c.name.getD o.kind.name)
      (.child (childKinds n.kind n.type) n.kind) (c.found o.kind))
  else if o.kind = .volume ∧ c.name ≠ some "interior" ∧ c.name ≠ some "exterior" then
    some (.typeMismatch c.location (c.name.getD "volume") .slottedVolume .unslottedVolume)
  else none

end Child

/-- The problem of a volume without a side. -/
def Attachment.sideless? (a : Attachment) : Option Problem :=
  if a.name ≠ some "interior" ∧ a.name ≠ some "exterior" then
    some (.typeMismatch a.location (a.name.getD "volume") .slottedVolume .unslottedVolume)
  else none

/-- No property stands at the position. -/
def Settings.Clear (s : Settings) (l : Location) : Prop :=
  ∀ name p, s.property? name = some p → p.location ≠ l

/-- Where no property stands, the mismatches that a plugin itself reports are those of the volumes
of a shape. -/
def Plugin.Sorts (p : Plugin) : Prop :=
  ∀ (children : Attached) (s : Settings) (l : Location), s.Clear l →
    (p.build children s).2.problems.filter (·.isMismatchAt l) =
      if p.kind = .shape then
        ((children.items.filter (·.object.kind = .volume)).filter (·.location = l)).filterMap
          Attachment.sideless?
      else []

/-! ## Lemmas -/

theorem Finding.filter_problems (l : Location) (ps : List Problem) :
    (ps.map problem).filter (·.isMismatchAt l) = (ps.filter (·.isMismatchAt l)).map problem := by
  rw [List.filter_map]
  rfl

theorem Finding.filter_unused (l : Location) (us : List Unused) :
    (us.map unused).filter (·.isMismatchAt l) = [] := by
  rw [List.filter_map, List.map_eq_nil_iff, List.filter_eq_nil_iff]
  exact fun _ _ h => nomatch h

namespace Child

variable (c : Child) (o : Object)

@[simp] theorem attach_object : (c.attach o).object = o := by cases c <;> rfl

@[simp] theorem attach_name : (c.attach o).name = c.name := by cases c <;> rfl

@[simp] theorem attach_location : (c.attach o).location = c.location := by cases c <;> rfl

theorem describe_found (k : NodeKind) : (c.found k).describe = c.attachedAs ++ k.name := by
  cases c <;> simp [found, attachedAs, Found.describe, toString]

/-- The refusal of a child tells how it was attached. -/
theorem refusal_attach (parent : NodeKind) (accepted : List NodeKind) :
    Instantiation.refusal parent accepted (c.attach o) =
      .typeMismatch c.location (c.name.getD o.kind.name) (.child accepted parent)
        (c.found o.kind) := by
  cases c <;> rfl

end Child

/-! ## Plugins -/

namespace Inspect

variable {α β : Type} {s : Settings} {l : Location}

/-- Remarks that are not about children are not about what stands elsewhere. -/
theorem no_mismatch_of_remarks (m : Inspect α) [hm : Remarks [] m] (hclear : s.Clear l) :
    (m s).2.problems.filter (·.isMismatchAt l) = [] := by
  rw [List.filter_eq_nil_iff]
  intro p hp hmismatch
  cases hm.remark s p hp with
  | broken rule => cases hmismatch
  | missing name => cases hmismatch
  | property expected found hproperty => exact hclear _ _ hproperty (of_decide_eq_true hmismatch)
  | child name expected found hplace => cases hplace

/-- An inspection that has no mismatch to report adds none. -/
theorem mismatches_bind (m : Inspect α) (f : α → Inspect β) [Remarks [] m] (hclear : s.Clear l) :
    ((m >>= f) s).2.problems.filter (·.isMismatchAt l) =
      (f (m s).1 s).2.problems.filter (·.isMismatchAt l) := by
  have hsplit : ((m >>= f) s).2.problems = (m s).2.problems ++ (f (m s).1 s).2.problems := rfl
  rw [hsplit, List.filter_append, no_mismatch_of_remarks m hclear, List.nil_append]

end Inspect

namespace Plugin

open Inspect

variable {s : Settings} {l : Location}

/-- The volumes that are put nowhere are reported, and nothing else is. -/
theorem placeVolumes_mismatches (hclear : s.Clear l) (items : List (Attachment × VolumeHandle)) :
    ∀ sides, (placeVolumes sides items s).2.problems.filter (·.isMismatchAt l) =
      ((items.map Prod.fst).filter (·.location = l)).filterMap Attachment.sideless? := by
  induction items with
  | nil => exact fun _ => rfl
  | cons item rest ih =>
    obtain ⟨a, handle⟩ := item
    intro sides
    rw [placeVolumes, List.map_cons]
    by_cases hin : a.name = some "interior"
    · have hfits : a.sideless? = none := if_neg fun h => h.1 hin
      rw [if_pos hin, mismatches_bind _ _ hclear, ih, List.filter_cons]
      split
      · rw [List.filterMap_cons_none hfits]
      · rfl
    by_cases hex : a.name = some "exterior"
    · have hfits : a.sideless? = none := if_neg fun h => h.2 hex
      rw [if_neg hin, if_pos hex, mismatches_bind _ _ hclear, ih, List.filter_cons]
      split
      · rw [List.filterMap_cons_none hfits]
      · rfl
    · have hstray : a.sideless? = some (.typeMismatch a.location (a.name.getD "volume")
          .slottedVolume .unslottedVolume) := if_pos ⟨hin, hex⟩
      have hreported : (placeVolumes sides ((a, handle) :: rest) s).2.problems =
          .typeMismatch a.location (a.name.getD "volume") .slottedVolume .unslottedVolume ::
            (placeVolumes sides rest s).2.problems := by
        rw [placeVolumes, if_neg hin, if_neg hex]
        rfl
      rw [placeVolumes] at hreported
      rw [hreported, List.filter_cons, List.filter_cons]
      by_cases hplace : a.location = l
      · rw [if_pos (by simpa [Problem.isMismatchAt] using hplace), if_pos (by simpa using hplace),
          List.filterMap_cons_some hstray, ih]
      · rw [if_neg (by simpa [Problem.isMismatchAt] using hplace), if_neg (by simpa using hplace),
          ih]

theorem volumes_map_fst (children : Attached) :
    children.volumes.map Prod.fst = children.items.filter (·.object.kind = .volume) := by
  obtain ⟨items, failed⟩ := children
  induction items with
  | nil => rfl
  | cons item items ih =>
    obtain ⟨name, object, location, byReference⟩ := item
    cases object with
    | volume h => exact congrArg (List.cons _) ih
    | _ => exact ih

/-- A shape looks at its properties before it puts its volumes on their sides. -/
theorem OfShape.sorts {p : Plugin} (h : OfShape p) : Sorts p := by
  obtain ⟨type, settings, rfl, hsettings⟩ := h
  intro children s l hclear
  have := hsettings []
  refine Eq.trans ?_ (if_pos rfl).symm
  rw [← volumes_map_fst, ← placeVolumes_mismatches hclear children.volumes ⟨none, none⟩,
    ← List.append_nil (placeVolumes ⟨none, none⟩ children.volumes s).2.problems]
  unfold shapePlugin
  exact (mismatches_bind settings _ hclear).trans
    ((mismatches_bind (transform "to_world") _ hclear).trans
      (mismatches_bind (boolean "flip_normals" false) _ hclear))

theorem Heedless.sorts {p : Plugin} (h : Heedless p) : Sorts p := by
  intro children s l hclear
  have := h.2 [] children
  rw [if_neg h.1, no_mismatch_of_remarks _ hclear]

theorem sorts_of_find? {kind : NodeKind} {type : String} {p : Plugin}
    (h : find? kind type = some p) : Sorts p :=
  (heedless_or_ofShape_of_find? h).elim Heedless.sorts OfShape.sorts

/-- The plugins take children of the kinds in the table. -/
theorem accepts_of_find? {kind : NodeKind} {type : String} {p : Plugin}
    (h : find? kind type = some p) : p.kind = kind ∧ p.accepts = childKinds kind type := by
  have hfound : p.kind = kind ∧ p.type = type := by
    simpa only [Bool.and_eq_true, decide_eq_true_eq] using List.find?_some h
  refine ⟨hfound.1, ?_⟩
  rw [← hfound.1, ← hfound.2]
  exact forall_of_find? (P := fun p => p.accepts = childKinds p.kind p.type)
    (by decide) (by decide) (by decide) h

end Plugin

/-! ## Nodes -/

theorem volume_mem_childKinds {kind : NodeKind} {type : String} :
    .volume ∈ childKinds kind type ↔ kind = .shape := by
  cases kind <;> simp [childKinds]

namespace Child

variable (c : Child) (o : Object)

theorem sideless?_attach : ([c.attach o].filter (·.object.kind = .volume)).filterMap
      Attachment.sideless? =
    (if o.kind = .volume ∧ c.name ≠ some "interior" ∧ c.name ≠ some "exterior" then
      some (Problem.typeMismatch c.location (c.name.getD "volume") .slottedVolume .unslottedVolume)
    else none).toList := by
  by_cases hvolume : o.kind = .volume
  · rw [List.filter_cons_of_pos (by simpa using hvolume), List.filter_nil,
      List.filterMap_eq_flatMap_toList, List.flatMap_singleton, Attachment.sideless?]
    simp [hvolume]
  · rw [List.filter_cons_of_neg (by simpa using hvolume), if_neg fun h => hvolume h.1]
    rfl

theorem refused_attach (parent : NodeKind) (accepted : List NodeKind) :
    ([c.attach o].filter fun a => !accepted.contains a.object.kind).map
        (Instantiation.refusal parent accepted) =
      if o.kind ∈ accepted then [] else
        [.typeMismatch c.location (c.name.getD o.kind.name) (.child accepted parent)
          (c.found o.kind)] := by
  rw [← refusal_attach]
  by_cases hfits : o.kind ∈ accepted <;> simp [hfits]

/-- Only one of the two reports is ever made about a child. -/
theorem fault?_eq (n : Node) : (c.fault? n o).toList =
    (if n.kind = .shape then
        ([c.attach o].filter (·.object.kind = .volume)).filterMap Attachment.sideless?
      else []) ++
      ([c.attach o].filter fun a => !(childKinds n.kind n.type).contains a.object.kind).map
        (Instantiation.refusal n.kind (childKinds n.kind n.type)) := by
  rw [sideless?_attach, refused_attach, fault?]
  by_cases hfits : o.kind ∈ childKinds n.kind n.type
  · rw [if_neg (not_not.mpr hfits), if_pos hfits, List.append_nil]
    by_cases hshape : n.kind = .shape
    · rw [if_pos hshape]
    · have hvolume : o.kind ≠ .volume := by
        intro hvolume
        rw [hvolume, volume_mem_childKinds] at hfits
        exact hshape hfits
      rw [if_neg hshape, if_neg fun h => hvolume h.1]
      rfl
  · rw [if_pos hfits, if_neg hfits]
    by_cases hshape : n.kind = .shape
    · have hvolume : o.kind ≠ .volume := by
        intro hvolume
        rw [hvolume, volume_mem_childKinds] at hfits
        exact hfits hshape
      rw [if_pos hshape, if_neg fun h => hvolume h.1]
      rfl
    · rw [if_neg hshape]
      rfl

end Child

namespace Instantiation

/-- A problem that children of a node have is reported where the children stand. -/
theorem refusals_mismatches (parent : NodeKind) (accepted : List NodeKind) (children : Attached)
    (l : Location) : (refusals parent accepted children).filter (·.isMismatchAt l) =
      ((children.items.filter (·.location = l)).filter
        fun a => !accepted.contains a.object.kind).map (refusal parent accepted) := by
  rw [refusals, List.filter_map, List.filter_filter, List.filter_filter]
  congr 2
  funext a
  exact Bool.and_comm _ _

/-- What is reported where one child stands, if any. -/
theorem inspect_mismatches {n : Node} {p : Plugin} {children : Attached} {c : Child}
    {o? : Option Object} (hp : Plugin.find? n.kind n.type = some p)
    (hclear : n.settings.Clear c.location)
    (hitems : children.items.filter (·.location = c.location) = o?.toList.map c.attach) :
    (inspect p n children).2.filter (·.isMismatchAt c.location) =
      (o?.bind (c.fault? n)).toList.map .problem := by
  obtain ⟨hkind, haccepts⟩ := Plugin.accepts_of_find? hp
  have hown := Plugin.sorts_of_find? hp children n.settings c.location hclear
  rw [List.filter_comm, hitems, hkind] at hown
  have hrefused := refusals_mismatches n.kind p.accepts children c.location
  rw [hitems, haccepts] at hrefused
  have hfindings : (inspect p n children).2 =
      (p.build children n.settings).2.problems.map .problem ++
        (refusals n.kind p.accepts children).map .problem ++
        (unused n.ref (p.build children n.settings).2.asked [] n.properties).map .unused := rfl
  rw [hfindings, haccepts, List.filter_append, List.filter_append, Finding.filter_problems,
    Finding.filter_problems, Finding.filter_unused, hown, hrefused, List.append_nil,
    ← List.map_append]
  congr 1
  cases o? with
  | none => simp
  | some o => exact (c.fault?_eq o n).symm

end Instantiation

end SceneGraph
