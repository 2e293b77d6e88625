import Mathlib.Data.List.Nodup
import Mathlib.Data.List.TakeWhile
import SceneGraph.Markup.Reader

/-!
# Elements that can be written down

An element is well formed when its tag and the names of its attributes, and those of every
element in it, are names, and no element has two attributes of one name.  Start tags are read
well formed (`readStartTag_wellFormed`): names are read by `readName` and a repeated attribute is
refused.  A frame that is closed or gets a child keeps what its parts have.
-/

namespace SceneGraph.Markup

mutual

/-- An element and all elements in it, in document order. -/
def Element.preorder : Element → List Element
  | ⟨tag, attributes, children, location⟩ =>
    ⟨tag, attributes, children, location⟩ :: Element.preorderAll children

def Element.preorderAll : List Element → List Element
  | [] => []
  | e :: es => e.preorder ++ Element.preorderAll es

end

/-- One or more name characters. -/
def IsName (name : String) : Prop :=
  name.toList ≠ [] ∧ ∀ c ∈ name.toList, isNameChar c = true

instance (name : String) : Decidable (IsName name) :=
  decidable_of_iff ((!name.toList.isEmpty && name.toList.all isNameChar) = true) (by simp [IsName])

namespace Element

/-- All elements in an element, but not itself. -/
def descendants (e : Element) : List Element := e.children.flatMap preorder

/-- The tag and the names of the attributes are names, the latter of one attribute each. -/
structure HasNames (e : Element) : Prop where
  tag : IsName e.tag
  attributes : ∀ a ∈ e.attributes, IsName a.1
  distinct : (e.attributes.map (·.1)).Nodup

instance (e : Element) : Decidable e.HasNames :=
  decidable_of_iff (IsName e.tag ∧ (∀ a ∈ e.attributes, IsName a.1) ∧
      (e.attributes.map (·.1)).Nodup)
    ⟨fun h => ⟨h.1, h.2.1, h.2.2⟩, fun h => ⟨h.tag, h.attributes, h.distinct⟩⟩

def WellFormed (e : Element) : Prop := ∀ d ∈ e.preorder, d.HasNames

instance (e : Element) : Decidable e.WellFormed := inferInstanceAs (Decidable (∀ d ∈ _, _))

theorem preorderAll_eq (es : List Element) : preorderAll es = es.flatMap preorder := by
  induction es with
  | nil => rfl
  | cons e es ih => rw [preorderAll, ih, List.flatMap_cons]

theorem preorderAll_mono {es fs : List Element} (h : es ⊆ fs) :
    preorderAll es ⊆ preorderAll fs := by
  intro d hd
  rw [preorderAll_eq] at hd ⊢
  obtain ⟨e, he, hd⟩ := List.mem_flatMap.mp hd
  exact List.mem_flatMap.mpr ⟨e, h he, hd⟩

theorem preorder_eq (e : Element) : e.preorder = e :: e.descendants := by
  cases e
  rw [preorder, preorderAll_eq]
  rfl

theorem mem_descendants {d e : Element} : d ∈ e.descendants ↔ ∃ c ∈ e.children, d ∈ c.preorder :=
  List.mem_flatMap

/-- All elements in an element are itself and all elements in its children. -/
theorem forall_preorder_iff {P : Element → Prop} {e : Element} :
    (∀ d ∈ e.preorder, P d) ↔ P e ∧ ∀ c ∈ e.children, ∀ d ∈ c.preorder, P d := by
  rw [preorder_eq, List.forall_mem_cons]
  simp only [descendants, List.forall_mem_flatMap]

theorem wellFormed_iff {e : Element} :
    e.WellFormed ↔ e.HasNames ∧ ∀ c ∈ e.children, c.WellFormed := forall_preorder_iff

end Element

/-! ## Reading gives well formed elements -/

theorem readName_isName {c c' : Cursor} {name : String} (h : readName c = .ok (name, c')) :
    IsName name := by
  unfold readName Cursor.fail at h
  split at h
  · cases h
  · next hne =>
    injection h with h
    injection h with h _
    subst h
    rw [IsName, String.toList_ofList]
    exact ⟨by simpa using hne, fun x hx => List.mem_takeWhile_imp hx⟩

theorem readAttribute_isName {c c' : Cursor} {a : String × String}
    (h : readAttribute c = .ok (a, c')) : IsName a.1 := by
  unfold readAttribute at h
  split at h
  · cases h
  · next name c₁ h₁ =>
    split at h
    · cases h
    · split at h
      · cases h
      · injection h with h
        injection h with h _
        subst h
        exact readName_isName h₁

/-- A start tag is well formed before its attributes are read, and after each of them. -/
theorem readAttributes_hasNames {f : Frame} {c c' : Cursor} {r : Frame × TagEnd}
    (h : readAttributes f c = .ok (r, c')) (hf : f.close.HasNames) :
    r.1.close.HasNames ∧ r.1.children = f.children := by
  fun_induction readAttributes f c with
  | case1 => cases h
  | case2 => cases h
  | case3 f c _ _ d hd =>
    injection h with h
    injection h with h _
    subst h
    exact ⟨hf, rfl⟩
  | case4 f c =>
    injection h with h
    injection h with h _
    subst h
    exact ⟨hf, rfl⟩
  | case5 => cases h
  | case6 => cases h
  | case7 => cases h
  | case8 f c _ _ _ _ _ _ a _ ha hnew ih =>
    refine ih h ⟨hf.tag, ?_, ?_⟩
    · intro b hb
      rcases List.mem_append.mp hb with hb | hb
      · exact hf.attributes b hb
      · rw [List.mem_singleton.mp hb]
        exact readAttribute_isName ha
    · show ((f.attributes ++ [a]).map (·.1)).Nodup
      rw [List.map_append, List.map_singleton]
      refine List.nodup_append.mpr ⟨hf.distinct, List.nodup_singleton _, ?_⟩
      rintro x hx y hy rfl
      obtain ⟨b, hb, hbx⟩ := List.mem_map.mp hx
      apply hnew
      rw [List.any_eq_true]
      exact ⟨b, hb, by simp [hbx, List.mem_singleton.mp hy]⟩

theorem readStartTag_hasNames {c c' : Cursor} {r : Frame × TagEnd}
    (h : readStartTag c = .ok (r, c')) : r.1.close.HasNames ∧ r.1.children = [] := by
  unfold readStartTag at h
  split at h
  · cases h
  · split at h
    · cases h
    · next tag c₂ h₂ =>
      exact readAttributes_hasNames h
        ⟨readName_isName h₂, List.forall_mem_nil _, List.nodup_nil⟩

theorem Frame.close_wellFormed {f : Frame} :
    f.close.WellFormed ↔ f.close.HasNames ∧ ∀ e ∈ f.children, e.WellFormed := by
  rw [Element.wellFormed_iff]
  simp [close]

theorem Frame.add_wellFormed {f : Frame} {e : Element} (hf : f.close.WellFormed)
    (he : e.WellFormed) : (f.add e).close.WellFormed := by
  rw [Frame.close_wellFormed] at hf ⊢
  refine ⟨⟨hf.1.tag, hf.1.attributes, hf.1.distinct⟩, fun d hd => ?_⟩
  rcases List.mem_cons.mp hd with rfl | hd
  · exact he
  · exact hf.2 d hd

theorem readStartTag_wellFormed {c c' : Cursor} {r : Frame × TagEnd}
    (h : readStartTag c = .ok (r, c')) : r.1.close.WellFormed := by
  obtain ⟨hnames, hchildren⟩ := readStartTag_hasNames h
  rw [Frame.close_wellFormed, hchildren]
  exact ⟨hnames, fun e he => by cases he⟩

end SceneGraph.Markup
