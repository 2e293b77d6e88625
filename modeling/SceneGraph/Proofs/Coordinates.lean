import Mathlib.Data.List.DropRight
import SceneGraph.Proofs.Positions

/-!
# Lines and columns

A position is one more than the line feeds in front of it, and one more than the characters
between the last of them and it (`Location.behind`).  Reading keeps positions character by
character, and they come out as that (`start_after`).  So the position of an element is the one of
the bracket in front of its name, and the one of a failure is that of a place in the text
(`read_positions`).

Readers move on from where they were started, so a failure is at a place that is reached from
there (`Cursor.Reaches`).  A start tag and an element that is never closed are reported at their
brackets, which were reached too.
-/

namespace SceneGraph

namespace Location

/-- The position behind a text, counted in all of it. -/
def behind (cs : List Char) : Location :=
  ⟨1 + cs.count '\n', 1 + (cs.rtakeWhile (· ≠ '\n')).length⟩

theorem behind_concat (cs : List Char) (c : Char) : behind (cs ++ [c]) = (behind cs).step c := by
  unfold behind step
  rw [List.count_append, List.rtakeWhile_concat]
  by_cases hc : c = '\n'
  · subst hc
    simp [Nat.add_assoc]
  · simp [hc, Nat.add_assoc]

theorem start_after (cs : List Char) : start.after cs = behind cs := by
  induction cs using List.reverseRecOn with
  | nil => rfl
  | append_singleton cs c ih => rw [after_append, ih, behind_concat, after_cons, after_nil]

end Location

namespace Markup

/-- The characters of a document.  A byte order mark in front is none of them. -/
def content (text : String) : List Char :=
  if text.toList.head? = some '\ufeff' then text.toList.tail else text.toList

theorem ofText_eq (text : String) : Cursor.ofText text = ⟨content text, Location.start⟩ := by
  unfold Cursor.ofText content
  split
  · next cs htext => rw [htext, if_pos List.head?_cons, List.tail_cons]
  · next cs hmark =>
    rw [if_neg]
    intro hhead
    obtain ⟨rest, htext⟩ := List.head?_eq_some_iff.mp hhead
    exact hmark rest htext

/-- A place in a document has the position of what is in front of it. -/
theorem onward_ofText {text : String} {d : Cursor} (h : (Cursor.ofText text).Onward d) :
    ∃ o ≤ (content text).length, d.rest = (content text).drop o ∧
      d.location = Location.behind ((content text).take o) := by
  obtain ⟨n, rfl⟩ := h
  rw [ofText_eq]
  rcases Nat.le_total n (content text).length with hn | hn
  · exact ⟨n, hn, rfl, Location.start_after _⟩
  · refine ⟨(content text).length, Nat.le_refl _, ?_, ?_⟩
    · rw [Cursor.rest_advance, List.drop_length, List.drop_eq_nil_of_le hn]
    · rw [Cursor.advance, Location.start_after, List.take_length, List.take_of_length_le hn]

namespace Cursor

/-- The position is one that readers come to from `c`. -/
def Reaches (c : Cursor) (l : Location) : Prop := ∃ d, c.Onward d ∧ l = d.location

variable {c d : Cursor} {l : Location}

theorem Reaches.here (c : Cursor) : c.Reaches c.location := ⟨c, Onward.refl c, rfl⟩

theorem Onward.reaches (h : c.Onward d) (hd : d.Reaches l) : c.Reaches l := by
  obtain ⟨e, he, hl⟩ := hd
  exact ⟨e, h.trans he, hl⟩

theorem reaches_of_fail {α : Type} {fault : Fault} {failure : Failure}
    (h : (c.fail fault : Except Failure α) = .error failure) : c.Reaches failure.location := by
  obtain rfl := Except.error.inj h
  exact Reaches.here c

end Cursor

open Cursor

/-! ## Failures are at places that were reached -/

section

variable {c : Cursor} {failure : Failure}

theorem skipAsides_reaches (h : skipAsides c = .error failure) : c.Reaches failure.location := by
  fun_induction skipAsides c with
  | case1 => cases h
  | case2 c => exact (onward_skipBlanks c).reaches (reaches_of_fail h)
  | case3 c a _ i _ ih =>
    exact (onward_skipBlanks c).reaches ((onward_advance _ _).reaches (ih h))

theorem readName_reaches (h : readName c = .error failure) : c.Reaches failure.location := by
  unfold readName at h
  split at h
  · exact reaches_of_fail h
  · cases h

theorem expect_reaches {text : String} (h : expect text c = .error failure) :
    c.Reaches failure.location := by
  unfold expect at h
  split at h
  · cases h
  · exact reaches_of_fail h

theorem readEntity_reaches (h : readEntity c = .error failure) : c.Reaches failure.location := by
  unfold readEntity at h
  split at h
  · exact reaches_of_fail h
  · split at h
    · exact reaches_of_fail h
    · cases h

theorem readValueFrom_reaches {quote : Char} {value : List Char}
    (h : readValueFrom quote value c = .error failure) : c.Reaches failure.location := by
  fun_induction readValueFrom quote value c with
  | case1 | case3 => exact reaches_of_fail h
  | case2 => cases h
  | case4 _ _ _ _ hentity =>
    obtain rfl := Except.error.inj h
    exact readEntity_reaches hentity
  | case5 _ _ _ _ _ hentity _ _ _ ih => exact (readEntity_onward hentity).reaches (ih h)
  | case6 _ c _ _ _ _ _ _ ih => exact (onward_advance c 1).reaches (ih h)

theorem readValue_reaches (h : readValue c = .error failure) : c.Reaches failure.location := by
  unfold readValue at h
  split at h
  · exact (onward_advance c 1).reaches (readValueFrom_reaches h)
  · exact (onward_advance c 1).reaches (readValueFrom_reaches h)
  · exact reaches_of_fail h

theorem readAttribute_reaches (h : readAttribute c = .error failure) :
    c.Reaches failure.location := by
  unfold readAttribute at h
  split at h
  · next hname =>
    obtain rfl := Except.error.inj h
    exact readName_reaches hname
  · next c₁ hname =>
    have hnamed := (readName_onward hname).trans (onward_skipBlanks c₁)
    split at h
    · next hequals =>
      obtain rfl := Except.error.inj h
      exact hnamed.reaches (expect_reaches hequals)
    · next c₂ hequals =>
      have hgiven := (expect_onward hequals).trans (onward_skipBlanks c₂)
      split at h
      · next hvalue =>
        obtain rfl := Except.error.inj h
        exact hnamed.reaches (hgiven.reaches (readValue_reaches hvalue))
      · cases h

/-- A start tag that does not end is reported where it begins. -/
theorem readAttributes_reaches {f : Frame} (h : readAttributes f c = .error failure) :
    failure.location = f.location ∨ c.Reaches failure.location := by
  fun_induction readAttributes f c with
  | case1 =>
    obtain rfl := Except.error.inj h
    exact .inl rfl
  | case2 f c _ _ _ hend =>
    obtain rfl := Except.error.inj h
    exact .inr ((onward_skipBlanks c).reaches (expect_reaches hend))
  | case3 | case4 => cases h
  | case5 f c | case7 f c => exact .inr ((onward_skipBlanks c).reaches (reaches_of_fail h))
  | case6 f c _ _ _ _ _ _ _ hattribute =>
    obtain rfl := Except.error.inj h
    exact .inr ((onward_skipBlanks c).reaches (readAttribute_reaches hattribute))
  | case8 f c _ _ _ _ _ _ _ _ hattribute _ ih =>
    refine (ih h).imp_right fun hd => ?_
    exact (onward_skipBlanks c).reaches ((readAttribute_onward hattribute).reaches hd)

theorem readStartTag_reaches (h : readStartTag c = .error failure) :
    c.Reaches failure.location := by
  unfold readStartTag at h
  split at h
  · next hopening =>
    obtain rfl := Except.error.inj h
    exact expect_reaches hopening
  · next hopening =>
    have hnext := expect_onward hopening
    split at h
    · next hname =>
      obtain rfl := Except.error.inj h
      exact hnext.reaches (readName_reaches hname)
    · next hname =>
      rcases readAttributes_reaches h with hhere | hbehind
      · rw [hhere]
        exact Reaches.here c
      · exact hnext.reaches ((readName_onward hname).reaches hbehind)

theorem readEndTag_reaches {f : Frame} (h : readEndTag f c = .error failure) :
    c.Reaches failure.location := by
  unfold readEndTag at h
  split at h
  · next hname =>
    obtain rfl := Except.error.inj h
    exact readName_reaches hname
  · next c₁ hname =>
    refine (readName_onward hname).reaches ?_
    split at h
    · exact (onward_skipBlanks c₁).reaches (expect_reaches h)
    · exact reaches_of_fail h

/-- An element that is never closed is reported where it begins. -/
theorem step_reaches {f : Frame} (h : step f c = .error failure) :
    failure.location = f.location ∨ c.Reaches failure.location := by
  unfold step at h
  split at h
  · next hasides =>
    obtain rfl := Except.error.inj h
    exact .inr (skipAsides_reaches hasides)
  · next c₁ hasides =>
    have hbehind := skipAsides_onward hasides
    split at h
    · obtain rfl := Except.error.inj h
      exact .inl rfl
    refine .inr (hbehind.reaches ?_)
    split at h
    · split at h
      · next hend =>
        obtain rfl := Except.error.inj h
        exact (onward_advance c₁ 2).reaches (readEndTag_reaches hend)
      · cases h
    split at h
    · exact reaches_of_fail h
    split at h
    · split at h
      · next hstart =>
        obtain rfl := Except.error.inj h
        exact readStartTag_reaches hstart
      all_goals cases h
    · exact reaches_of_fail h

end

/-! ## Elements stand at their brackets -/

/-- The element is at a place reached from `s`, where a bracket and its name are written. -/
def Element.StandsFrom (s : Cursor) (e : Element) : Prop :=
  ∃ d, s.Onward d ∧ '<' :: e.tag.toList <+: d.rest ∧ e.location = d.location

/-- All elements in the element stand from `s` on. -/
def Element.AllStandFrom (s : Cursor) (e : Element) : Prop := ∀ d ∈ e.preorder, d.StandsFrom s

section

variable {s c c' : Cursor}

theorem Element.AllStandFrom.reaches {e : Element} (h : e.AllStandFrom s) :
    s.Reaches e.location := by
  obtain ⟨d, hd, -, hlocation⟩ := (Element.forall_preorder_iff.mp h).1
  exact ⟨d, hd, hlocation⟩

theorem readStartTag_stands {r : Frame × TagEnd} (hs : s.Onward c)
    (h : readStartTag c = .ok (r, c')) : r.1.close.AllStandFrom s := by
  have hchildren := (readStartTag_hasNames h).2
  refine Element.forall_preorder_iff.mpr
    ⟨⟨c, hs, readStartTag_rest h, (readStartTag_onward h).2⟩, fun e he => ?_⟩
  rw [Frame.close, hchildren] at he
  cases he

theorem Frame.add_stands {f : Frame} {e : Element} (hf : f.close.AllStandFrom s)
    (he : e.AllStandFrom s) : (f.add e).close.AllStandFrom s := by
  obtain ⟨hown, hchildren⟩ := Element.forall_preorder_iff.mp hf
  refine Element.forall_preorder_iff.mpr ⟨hown, fun d hd => ?_⟩
  rcases List.mem_cons.mp (List.mem_reverse.mp hd) with rfl | hd
  · exact he
  · exact hchildren d (List.mem_reverse.mpr hd)

theorem step_stands {f : Frame} {turn : Turn} (hs : s.Onward c)
    (h : step f c = .ok (turn, c')) :
    s.Onward c' ∧ ∀ e ∈ turn.started, e.AllStandFrom s := by
  refine ⟨hs.trans (step_onward h).1, fun e he => ?_⟩
  obtain ⟨d, hasides, ⟨rfl, -, -⟩ | ⟨g, last, rfl, hstart⟩⟩ := step_cases h
  · cases he
  · rw [started_turn] at he
    obtain rfl := Option.some.inj he
    exact readStartTag_stands (hs.trans (skipAsides_onward hasides)) hstart

/-- The open elements stand from the start on, so a failure is at a place reached from there even
if it is one of theirs. -/
theorem readContents_reaches {f : Frame} {outer : List Frame} {failure : Failure}
    (h : readContents f outer c = .error failure) (hs : s.Onward c)
    (hf : f.close.AllStandFrom s) (houter : ∀ g ∈ outer, g.close.AllStandFrom s) :
    s.Reaches failure.location := by
  fun_induction readContents f outer c with
  | case1 f outer c e hstep =>
    obtain rfl := Except.error.inj h
    rcases step_reaches hstep with hown | hbehind
    · rw [hown]
      exact hf.reaches
    · exact hs.reaches hbehind
  | case2 f outer c d c₁ hstep ih =>
    obtain ⟨hs₁, hd⟩ := step_stands hs hstep
    exact ih h hs₁ (Frame.add_stands hf (hd d rfl)) houter
  | case3 f outer c g c₁ hstep ih =>
    obtain ⟨hs₁, hg⟩ := step_stands hs hstep
    exact ih h hs₁ (hg g.close rfl) (List.forall_mem_cons.mpr ⟨hf, houter⟩)
  | case4 => cases h
  | case5 f c c₁ hstep g gs ih =>
    obtain ⟨hg, hgs⟩ := List.forall_mem_cons.mp houter
    exact ih h (step_stands hs hstep).1 (Frame.add_stands hg hf) hgs

theorem readContents_onward {f : Frame} {outer : List Frame} {e : Element}
    (h : readContents f outer c = .ok (e, c')) : c.Onward c' := by
  fun_induction readContents f outer c with
  | case1 => cases h
  | case2 _ _ _ _ _ hstep ih | case3 _ _ _ _ _ hstep ih | case5 _ _ _ hstep _ _ ih =>
    exact (step_onward hstep).1.trans (ih h)
  | case4 f c c₁ hstep =>
    obtain ⟨-, rfl⟩ := Prod.mk.inj (Except.ok.inj h)
    exact (step_onward hstep).1

theorem readElement_stands {e : Element} (h : readElement c = .ok (e, c')) :
    e.AllStandFrom c := by
  obtain ⟨f, last, d, hstart, ⟨-, rfl, -⟩ | ⟨-, hcontents⟩⟩ := readElement_cases h
  · exact readStartTag_stands (Onward.refl c) hstart
  · exact readContents_invariant Frame.add_stands step_stands hcontents
      (readStartTag_onward hstart).1 (readStartTag_stands (Onward.refl c) hstart)
      (List.forall_mem_nil _)

theorem readElement_onward {e : Element} (h : readElement c = .ok (e, c')) : c.Onward c' := by
  obtain ⟨f, last, d, hstart, ⟨-, -, rfl⟩ | ⟨-, hcontents⟩⟩ := readElement_cases h
  · exact (readStartTag_onward hstart).1
  · exact (readStartTag_onward hstart).1.trans (readContents_onward hcontents)

theorem readElement_reaches {failure : Failure} (h : readElement c = .error failure) :
    c.Reaches failure.location := by
  unfold readElement at h
  split at h
  · next hstart =>
    obtain rfl := Except.error.inj h
    exact readStartTag_reaches hstart
  · cases h
  · next hstart =>
    exact readContents_reaches h (readStartTag_onward hstart).1
      (readStartTag_stands (Onward.refl c) hstart) (List.forall_mem_nil _)

end

/-! ## Documents -/

section

variable {text : String}

theorem read_stands {root : Element} (h : read text = .ok root) :
    root.AllStandFrom (Cursor.ofText text) := by
  obtain ⟨c, c', c'', hbefore, helement, -, -⟩ := read_iff.mp h
  intro e he
  obtain ⟨d, hd, hstands⟩ := readElement_stands helement e he
  exact ⟨d, (skipAsides_onward hbefore).trans hd, hstands⟩

theorem read_reaches {failure : Failure} (h : read text = .error failure) :
    (Cursor.ofText text).Reaches failure.location := by
  unfold read at h
  split at h
  · next hbefore =>
    obtain rfl := Except.error.inj h
    exact skipAsides_reaches hbefore
  · next c hbefore =>
    refine (skipAsides_onward hbefore).reaches ?_
    split at h
    · exact reaches_of_fail h
    split at h
    · next helement =>
      obtain rfl := Except.error.inj h
      exact readElement_reaches helement
    · next root c' helement =>
      refine (readElement_onward helement).reaches ?_
      split at h
      · next hbehind =>
        obtain rfl := Except.error.inj h
        exact skipAsides_reaches hbehind
      · next hbehind =>
        split at h
        · cases h
        · exact (skipAsides_onward hbehind).reaches (reaches_of_fail h)

end

/-- Positions are exact.  Every element of a document is at the position of a bracket with its name
behind it; positions increase in document order, and no two elements have the same one.  What is
wrong with any other text is at the position of a place in it, or of its end. -/
theorem read_positions (text : String) :
    (∀ root, read text = .ok root →
      (∀ e ∈ root.preorder, ∃ o, '<' :: e.tag.toList <+: (content text).drop o ∧
        e.location = Location.behind ((content text).take o)) ∧
      (root.preorder.map (·.location)).Pairwise Location.Before ∧
      (root.preorder.map (·.location)).Nodup) ∧
    ∀ failure, read text = .error failure → ∃ o ≤ (content text).length,
      failure.location = Location.behind ((content text).take o) := by
  refine ⟨fun root h => ⟨fun e he => ?_, read_ascending h, read_nodup h⟩, fun failure h => ?_⟩
  · obtain ⟨d, hd, hbracket, hlocation⟩ := read_stands h e he
    obtain ⟨o, -, hrest, hplace⟩ := onward_ofText hd
    exact ⟨o, hrest ▸ hbracket, hlocation.trans hplace⟩
  · obtain ⟨d, hd, hlocation⟩ := read_reaches h
    obtain ⟨o, ho, -, hplace⟩ := onward_ofText hd
    exact ⟨o, ho, hlocation.trans hplace⟩

/-- A mark in front, characters of several bytes, and line feeds between tags and in a value. -/
def scattered : String := "\ufeff<!-- \u00e9\n-->\u00a0<\u00e4 x='\n\u20ac'>\n <b/></\u00e4>"

/-- The second element is never closed. -/
def unclosed : String := "\ufeff<\u00e4>\n <b>\n"

theorem read_positions_scattered :
    (∃ root, read scattered = .ok root ∧
      root.preorder.map (·.location) = [⟨2, 5⟩, ⟨4, 2⟩] ∧
      (root.preorder.map (·.location)).Nodup ∧
      ∀ e ∈ root.preorder, ∃ o, '<' :: e.tag.toList <+: (content scattered).drop o ∧
        e.location = Location.behind ((content scattered).take o)) ∧
    ∃ failure, read unclosed = .error failure ∧ failure.location = ⟨2, 2⟩ ∧
      ∃ o ≤ (content unclosed).length,
        failure.location = Location.behind ((content unclosed).take o) := by
  have hread : (match read scattered, read unclosed with
      | .ok root, .error failure =>
        root.preorder.map (·.location) == [⟨2, 5⟩, ⟨4, 2⟩] && failure.location == ⟨2, 2⟩
      | _, _ => false) = true := by
    decide +kernel
  split at hread
  · next root failure h h' =>
    obtain ⟨hplaces, hplace⟩ := Bool.and_eq_true_iff.mp hread
    obtain ⟨hstand, -, hdistinct⟩ := (read_positions scattered).1 root h
    exact ⟨⟨root, h, eq_of_beq hplaces, hdistinct, hstand⟩,
      ⟨failure, h', eq_of_beq hplace, (read_positions unclosed).2 failure h'⟩⟩
  · cases hread

end Markup

end SceneGraph
