import SceneGraph.Proofs.Turns

/-!
# Where elements stand

Reading only moves forward (`Cursor.Onward`), and an element is started where the cursor is.  So
the positions of the elements of a document increase in document order (`read_ascending`), and no
two elements have the same one (`read_onlyAt`).

While a document is read, the positions so far are those of the open elements from the outermost
to the innermost, each with what it already contains (`trail`).  A turn of the reader leaves the
trail as it is or adds one position at its end.
-/

namespace SceneGraph

namespace Location

/-- Earlier in a text. -/
def Before (l m : Location) : Prop := l.line < m.line ∨ l.line = m.line ∧ l.column < m.column

theorem before_irrefl (l : Location) : ¬ l.Before l := by
  unfold Before
  omega

theorem Before.trans {k l m : Location} (h : k.Before l) (h' : l.Before m) : k.Before m := by
  unfold Before at *
  omega

/-- What is earlier than a position is earlier than anything that is not. -/
theorem Before.trans_not {k l m : Location} (h : k.Before l) (h' : ¬ m.Before l) : k.Before m := by
  unfold Before at *
  omega

theorem before_step (l : Location) (c : Char) : l.Before (l.step c) := by
  unfold step
  split
  · exact .inl (Nat.lt_succ_self _)
  · exact .inr ⟨rfl, Nat.lt_succ_self _⟩

/-- A text that is not empty leads further on. -/
theorem before_after {cs : List Char} (h : cs ≠ []) : ∀ l : Location, l.Before (l.after cs) := by
  induction cs with
  | nil => exact absurd rfl h
  | cons c cs ih =>
    intro l
    rw [after_cons]
    rcases eq_or_ne cs [] with rfl | hne
    · exact before_step l c
    · exact (before_step l c).trans (ih hne _)

end Location

namespace Markup

namespace Cursor

/-- From a cursor to one further on, or in the same place. -/
def Onward (c d : Cursor) : Prop := ∃ n, d = c.advance n

variable {b c d : Cursor}

theorem onward_advance (c : Cursor) (n : Nat) : c.Onward (c.advance n) := ⟨n, rfl⟩

theorem Onward.refl (c : Cursor) : c.Onward c := by
  refine ⟨0, ?_⟩
  cases c
  simp [advance]

theorem Onward.trans (h : b.Onward c) (h' : c.Onward d) : b.Onward d := by
  obtain ⟨m, rfl⟩ := h
  obtain ⟨n, rfl⟩ := h'
  exact ⟨m + n, advance_advance b m n⟩

theorem onward_skipBlanks (c : Cursor) : c.Onward c.skipBlanks := onward_advance c _

/-- With less text left, the position is a later one. -/
theorem Onward.before (h : c.Onward d) (hlt : d.rest.length < c.rest.length) :
    c.location.Before d.location := by
  obtain ⟨n, rfl⟩ := h
  have hn : c.rest.take n ≠ [] := by
    intro hnil
    rw [length_advance] at hlt
    rw [List.take_eq_nil_iff] at hnil
    rcases hnil with rfl | hrest
    · omega
    · rw [hrest] at hlt
      cases hlt
  exact Location.before_after hn _

/-- The position is never an earlier one. -/
theorem Onward.not_before (h : c.Onward d) : ¬ d.location.Before c.location := by
  obtain ⟨n, rfl⟩ := h
  intro hbefore
  rcases eq_or_ne (c.rest.take n) [] with hnil | hne
  · rw [advance, hnil] at hbefore
    exact Location.before_irrefl _ hbefore
  · exact Location.before_irrefl _ (hbefore.trans (Location.before_after hne _))

end Cursor

/-! ## Readers move on -/

section

open Cursor

variable {c c' : Cursor}

theorem skipAsides_onward (h : skipAsides c = .ok c') : c.Onward c' := by
  fun_induction skipAsides c with
  | case1 c =>
    injection h with h
    subst h
    exact onward_skipBlanks c
  | case2 => cases h
  | case3 c a _ i _ ih => exact (onward_skipBlanks c).trans ((onward_advance _ _).trans (ih h))

theorem readName_onward {name : String} (h : readName c = .ok (name, c')) : c.Onward c' := by
  obtain ⟨-, rfl⟩ := readName_ok h
  exact onward_advance c _

theorem expect_onward {text : String} (h : expect text c = .ok c') : c.Onward c' := by
  obtain ⟨-, rfl⟩ := expect_ok h
  exact onward_advance c _

theorem readEntity_onward {x : Char} (h : readEntity c = .ok (x, c')) : c.Onward c' := by
  unfold readEntity at h
  split at h
  · cases h
  · split at h
    · cases h
    · injection h with h
      injection h with _ h
      subst h
      exact onward_advance c _

theorem readValueFrom_onward {quote : Char} {value : List Char} {s : String}
    (h : readValueFrom quote value c = .ok (s, c')) : c.Onward c' := by
  fun_induction readValueFrom quote value c with
  | case1 => cases h
  | case2 value c =>
    injection h with h
    injection h with _ h
    subst h
    exact onward_advance c 1
  | case3 => cases h
  | case4 => cases h
  | case5 _ _ _ _ _ hentity _ _ _ ih => exact (readEntity_onward hentity).trans (ih h)
  | case6 _ c _ _ _ _ _ _ ih => exact (onward_advance c 1).trans (ih h)

theorem readValue_onward {s : String} (h : readValue c = .ok (s, c')) : c.Onward c' := by
  unfold readValue at h
  split at h
  · exact (onward_advance c 1).trans (readValueFrom_onward h)
  · exact (onward_advance c 1).trans (readValueFrom_onward h)
  · cases h

theorem readAttribute_onward {a : String × String} (h : readAttribute c = .ok (a, c')) :
    c.Onward c' := by
  obtain ⟨c₁, c₂, hname, hequals, hvalue⟩ := readAttribute_cases h
  have hbehind := (onward_skipBlanks c₂).trans (readValue_onward hvalue)
  have hequals := (onward_skipBlanks c₁).trans (expect_onward hequals)
  exact (readName_onward hname).trans (hequals.trans hbehind)

/-- Attributes are read behind the position of their tag, and change neither it nor the
content. -/
theorem readAttributes_onward {f : Frame} {r : Frame × TagEnd}
    (h : readAttributes f c = .ok (r, c')) : c.Onward c' ∧ r.1.location = f.location := by
  fun_induction readAttributes f c with
  | case1 => cases h
  | case2 => cases h
  | case3 f c _ _ d hd =>
    injection h with h
    injection h with h h'
    subst h h'
    exact ⟨(onward_skipBlanks c).trans (expect_onward hd), rfl⟩
  | case4 f c =>
    injection h with h
    injection h with h h'
    subst h h'
    exact ⟨(onward_skipBlanks c).trans (onward_advance _ 1), rfl⟩
  | case5 => cases h
  | case6 => cases h
  | case7 => cases h
  | case8 f c _ _ _ _ _ _ _ _ ha _ ih =>
    obtain ⟨honward, hlocation⟩ := ih h
    exact ⟨(onward_skipBlanks c).trans ((readAttribute_onward ha).trans honward), hlocation⟩

/-- A start tag is where the cursor is. -/
theorem readStartTag_onward {r : Frame × TagEnd} (h : readStartTag c = .ok (r, c')) :
    c.Onward c' ∧ r.1.location = c.location := by
  obtain ⟨c₁, c₂, tag, hopening, hname, hattributes⟩ := readStartTag_cases h
  obtain ⟨honward, hlocation⟩ := readAttributes_onward hattributes
  exact ⟨(expect_onward hopening).trans ((readName_onward hname).trans honward), hlocation⟩

theorem readEndTag_onward {f : Frame} (h : readEndTag f c = .ok c') : c.Onward c' := by
  obtain ⟨c₁, hname, hend⟩ := readEndTag_cases h
  exact (readName_onward hname).trans ((onward_skipBlanks c₁).trans (expect_onward hend))

end

/-! ## Turns -/

/-- The position of what a turn starts, which has no content yet. -/
def Turn.Starts (l : Location) : Turn → Prop
  | .child e => e.location = l ∧ e.children = []
  | .opened g => g.location = l ∧ g.children = []
  | .closed => True

/-- A turn moves on, and what it starts is not in front of the cursor and not behind it
afterwards. -/
theorem step_onward {f : Frame} {c c' : Cursor} {turn : Turn} (h : step f c = .ok (turn, c')) :
    c.Onward c' ∧
      ∃ l, turn.Starts l ∧ ¬ l.Before c.location ∧ l.Before c'.location := by
  have hmoved := step_length_lt h
  obtain ⟨d, hasides, ⟨rfl, -, hend⟩ | ⟨g, last, rfl, hstart⟩⟩ := step_cases h
  all_goals have hbehind := skipAsides_onward hasides
  · have honward := hbehind.trans ((d.onward_advance 2).trans (readEndTag_onward hend))
    exact ⟨honward, c.location, trivial, Location.before_irrefl _, honward.before hmoved⟩
  · obtain ⟨honward, hlocation⟩ := readStartTag_onward hstart
    have hchildren : g.children = [] := (readStartTag_hasNames hstart).2
    refine ⟨hbehind.trans honward, d.location, ?_, hbehind.not_before,
      honward.before (readStartTag_length_lt hstart)⟩
    cases last with
    | empty => exact ⟨hlocation, by simp [Frame.close, hchildren]⟩
    | opened => exact ⟨hlocation, hchildren⟩

/-! ## Positions so far -/

/-- The positions of an open element and of what it already contains. -/
def Frame.places (f : Frame) : List Location := f.close.preorder.map (·.location)

/-- The positions in the innermost open element `f` and in those around it. -/
def trail (f : Frame) (outer : List Frame) : List Location :=
  (f :: outer).reverse.flatMap Frame.places

/-- Positions in the order of a text, all in front of a cursor. -/
structure Ascends (ls : List Location) (c : Cursor) : Prop where
  ascending : ls.Pairwise Location.Before
  passed : ∀ l ∈ ls, l.Before c.location

theorem Frame.places_of_empty {f : Frame} (h : f.children = []) : f.places = [f.location] := by
  simp [places, close, h, Element.preorder, Element.preorderAll]

theorem Frame.places_add (f : Frame) (e : Element) :
    (f.add e).places = f.places ++ e.preorder.map (·.location) := by
  simp [places, close, add, Element.preorder_eq, Element.descendants]

theorem trail_cons (f g : Frame) (outer : List Frame) :
    trail f (g :: outer) = trail g outer ++ f.places := by
  simp [trail]

theorem trail_add (f : Frame) (outer : List Frame) (e : Element) :
    trail (f.add e) outer = trail f outer ++ e.preorder.map (·.location) := by
  simp [trail, Frame.places_add]

/-- An element that ends becomes the content of the one around it. -/
theorem trail_close (f g : Frame) (outer : List Frame) :
    trail (g.add f.close) outer = trail f (g :: outer) := by
  rw [trail_add, trail_cons]
  rfl

theorem Ascends.onward {ls : List Location} {c c' : Cursor} (h : Ascends ls c)
    (hc : c.Onward c') : Ascends ls c' :=
  ⟨h.ascending, fun l hl => (h.passed l hl).trans_not hc.not_before⟩

/-- One more position between two cursors. -/
theorem Ascends.snoc {ls : List Location} {c c' : Cursor} {m : Location} (h : Ascends ls c)
    (hm : ¬ m.Before c.location) (hm' : m.Before c'.location) : Ascends (ls ++ [m]) c' := by
  have hbefore : ∀ l ∈ ls, l.Before m := fun l hl => (h.passed l hl).trans_not hm
  refine ⟨List.pairwise_append.mpr ⟨h.ascending, List.pairwise_singleton _ _, ?_⟩, ?_⟩
  · intro l hl m' hm'
    rw [List.mem_singleton.mp hm']
    exact hbefore l hl
  · intro l hl
    rcases List.mem_append.mp hl with hl | hl
    · exact (hbefore l hl).trans hm'
    · rw [List.mem_singleton.mp hl]
      exact hm'

/-- The positions so far stay in order, so those of the whole element are. -/
theorem readContents_ascending {f : Frame} {outer : List Frame} {c c' : Cursor} {e : Element}
    (h : readContents f outer c = .ok (e, c')) (htrail : Ascends (trail f outer) c) :
    (e.preorder.map (·.location)).Pairwise Location.Before := by
  fun_induction readContents f outer c with
  | case1 => cases h
  | case2 f outer c d c₁ hstep ih =>
    obtain ⟨-, l, ⟨rfl, hempty⟩, hl, hl'⟩ := step_onward hstep
    refine ih h ?_
    have hplaces : d.preorder.map (·.location) = [d.location] := by
      rw [Element.preorder_eq, Element.descendants, hempty]
      rfl
    rw [trail_add, hplaces]
    exact htrail.snoc hl hl'
  | case3 f outer c g c₁ hstep ih =>
    obtain ⟨-, l, ⟨rfl, hempty⟩, hl, hl'⟩ := step_onward hstep
    refine ih h ?_
    rw [trail_cons, Frame.places_of_empty hempty]
    exact htrail.snoc hl hl'
  | case4 f c c₁ _ =>
    injection h with h
    injection h with h _
    subst h
    have hwhole : trail f [] = f.places := by simp [trail]
    rw [hwhole] at htrail
    exact htrail.ascending
  | case5 f c c₁ hstep g gs ih =>
    refine ih h ?_
    rw [trail_close]
    exact htrail.onward (step_onward hstep).1

theorem readElement_ascending {c c' : Cursor} {e : Element} (h : readElement c = .ok (e, c')) :
    (e.preorder.map (·.location)).Pairwise Location.Before := by
  obtain ⟨f, last, d, hstart, hrest⟩ := readElement_cases h
  obtain ⟨honward, hlocation⟩ := readStartTag_onward hstart
  have hplaces := Frame.places_of_empty (readStartTag_hasNames hstart).2
  rcases hrest with ⟨-, rfl, -⟩ | ⟨-, hcontents⟩
  · rw [Frame.places] at hplaces
    rw [hplaces]
    exact List.pairwise_singleton _ _
  · refine readContents_ascending hcontents ?_
    have htrail : trail f [] = [c.location] := by
      rw [trail, List.reverse_singleton, List.flatMap_singleton, hplaces, hlocation]
    rw [htrail]
    refine ⟨List.pairwise_singleton _ _, fun l hl => ?_⟩
    rw [List.mem_singleton.mp hl]
    exact honward.before (readStartTag_length_lt hstart)

/-! ## Positions of a document -/

/-- The positions of the elements of a document increase in document order. -/
theorem read_ascending {text : String} {root : Element} (h : read text = .ok root) :
    (root.preorder.map (·.location)).Pairwise Location.Before := by
  obtain ⟨c, c', c'', -, helement, -, -⟩ := read_iff.mp h
  exact readElement_ascending helement

/-- No two elements of a document have the same position. -/
theorem read_nodup {text : String} {root : Element} (h : read text = .ok root) :
    (root.preorder.map (·.location)).Nodup := by
  refine (read_ascending h).imp ?_
  rintro l m hlt rfl
  exact Location.before_irrefl l hlt

/-- The element is the only one at the position. -/
def Element.OnlyAt (root : Element) (l : Location) (e : Element) : Prop :=
  root.preorder.filter (·.location = l) = [e]

theorem filter_key_eq {α β : Type} [DecidableEq β] {key : α → β} {xs : List α}
    (h : (xs.map key).Nodup) {x : α} (hx : x ∈ xs) : xs.filter (key · = key x) = [x] := by
  induction xs with
  | nil => cases hx
  | cons y ys ih =>
    rw [List.map_cons, List.nodup_cons] at h
    rcases List.mem_cons.mp hx with rfl | hx
    · have hnone : ys.filter (key · = key x) = [] := by
        rw [List.filter_eq_nil_iff]
        intro z hz hkey
        exact h.1 (List.mem_map.mpr ⟨z, hz, of_decide_eq_true hkey⟩)
      rw [List.filter_cons_of_pos (by simp), hnone]
    · have hne : key y ≠ key x := by
        intro hkey
        exact h.1 (List.mem_map.mpr ⟨x, hx, hkey.symm⟩)
      rw [List.filter_cons_of_neg (by simpa using hne), ih h.2 hx]

/-- Every element of a document is the only one at its position. -/
theorem read_onlyAt {text : String} {root e : Element} (h : read text = .ok root)
    (he : e ∈ root.preorder) : root.OnlyAt e.location e := filter_key_eq (read_nodup h) he

mutual

/-- The elements in an element of a document stand together, in the same order. -/
theorem Element.preorder_sublist : ∀ (root : Element) {e : Element}, e ∈ root.preorder →
    e.preorder.Sublist root.preorder
  | ⟨tag, attributes, children, location⟩, e, he => by
    rw [Element.preorder, List.mem_cons] at he
    rcases he with rfl | he
    · exact List.Sublist.refl _
    · rw [Element.preorder]
      exact (Element.preorderAll_sublist children he).cons _

theorem Element.preorderAll_sublist : ∀ (es : List Element) {e : Element},
    e ∈ Element.preorderAll es → e.preorder.Sublist (Element.preorderAll es)
  | [], e, he => by cases he
  | d :: ds, e, he => by
    rw [Element.preorderAll, List.mem_append] at he
    rw [Element.preorderAll]
    rcases he with he | he
    · exact (Element.preorder_sublist d he).trans (List.sublist_append_left _ _)
    · exact (Element.preorderAll_sublist ds he).trans (List.sublist_append_right _ _)

end

theorem Element.children_sublist (e : Element) : e.children.Sublist e.preorder := by
  have hall : ∀ es : List Element, es.Sublist (es.flatMap Element.preorder) := by
    intro es
    induction es with
    | nil => exact List.Sublist.refl _
    | cons c es ih =>
      rw [List.flatMap_cons, Element.preorder_eq, List.cons_append]
      exact (ih.trans (List.sublist_append_right _ _)).cons_cons c
  rw [Element.preorder_eq]
  exact (hall e.children).cons e

/-- No two children of an element of a document have the same position. -/
theorem read_children_nodup {text : String} {root e : Element} (h : read text = .ok root)
    (he : e ∈ root.preorder) : (e.children.map (·.location)).Nodup :=
  (read_nodup h).sublist ((e.children_sublist.trans (root.preorder_sublist he)).map _)

end Markup

end SceneGraph
