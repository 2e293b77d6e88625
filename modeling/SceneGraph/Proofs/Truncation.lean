import SceneGraph.Proofs.Gaps
import SceneGraph.Proofs.RoundTrip

/-!
# More text behind what was read

What a reader takes from a text, it takes from every text that goes on behind it, as long as the
last thing that it read has an end of its own (`readElement_extend`).  A name and a run of blanks
have none, so something must be left behind them; and the skipping of asides goes on where the
first text ended (`skipAsides_extend`).

So no document that is cut short is taken for another one: where the first part of a document is
one by itself, it has the same root, and all behind it is blanks and asides (`read_truncated`).
-/

namespace SceneGraph

namespace Text

/-- What was found is found in a longer text too. -/
theorem indexOf?_extend {text cs : List Char} {i : Nat} (h : indexOf? text cs = some i)
    (more : List Char) : indexOf? text (cs ++ more) = some i := by
  induction cs generalizing i with
  | nil =>
    obtain ⟨hempty, rfl⟩ : text = [] ∧ 0 = i := by simpa [indexOf?] using h
    subst hempty
    cases more <;> rfl
  | cons c cs ih =>
    rw [indexOf?] at h
    rw [List.cons_append, indexOf?]
    split at h
    · next hhere =>
      rw [List.isPrefixOf_iff_prefix] at hhere
      rw [if_pos]
      · exact h
      · rw [List.isPrefixOf_iff_prefix, ← List.cons_append]
        exact hhere.trans (List.prefix_append _ _)
    · next hhere =>
      obtain ⟨j, hj, rfl⟩ := Option.map_eq_some_iff.mp h
      have hle := indexOf?_add_length_le hj
      rw [if_neg, ih hj]
      · rfl
      · intro hmore
        apply hhere
        rw [List.isPrefixOf_iff_prefix] at hmore ⊢
        rw [← List.cons_append] at hmore
        exact List.prefix_of_prefix_length_le hmore (List.prefix_append _ _)
          (by rw [List.length_cons]; omega)

end Text

namespace Markup

open Text

namespace Cursor

/-- The same place in a text that goes on with `more`. -/
def extend (c : Cursor) (more : List Char) : Cursor := ⟨c.rest ++ more, c.location⟩

variable {c : Cursor}

theorem advance_extend {n : Nat} (h : n ≤ c.rest.length) (more : List Char) :
    (c.extend more).advance n = (c.advance n).extend more := by
  simp only [advance, extend, List.drop_append_of_le_length h, List.take_append_of_le_length h]

theorem rest_extend {x : Char} {r : List Char} (h : c.rest = x :: r) (more : List Char) :
    (c.extend more).rest = x :: (r ++ more) := by
  rw [extend, h]
  rfl

theorem advance_one_extend {x : Char} {r : List Char} (h : c.rest = x :: r) (more : List Char) :
    (c.extend more).advance 1 = (c.advance 1).extend more := by
  refine advance_extend ?_ more
  rw [h]
  exact Nat.succ_le_succ (Nat.zero_le _)

theorem startsWith_extend {text : List Char} (h : c.startsWith text = true) (more : List Char) :
    (c.extend more).startsWith text = true := by
  rw [startsWith_iff] at h ⊢
  exact h.trans (List.prefix_append _ _)

theorem run_length_le (c : Cursor) (p : Char → Bool) : (c.run p).length ≤ c.rest.length :=
  (List.takeWhile_prefix p).length_le

/-- A run that leaves something has an end of its own. -/
theorem run_extend {p : Char → Bool} (h : (c.skipRun p).rest ≠ []) (more : List Char) :
    (c.extend more).run p = c.run p := by
  have hlt : (c.rest.takeWhile p).length ≠ c.rest.length := by
    intro heq
    apply h
    rw [skipRun, rest_advance, run, heq, List.drop_length]
  rw [run, extend, List.takeWhile_append, if_neg hlt]
  rfl

theorem skipRun_extend {p : Char → Bool} (h : (c.skipRun p).rest ≠ []) (more : List Char) :
    (c.extend more).skipRun p = (c.skipRun p).extend more := by
  rw [skipRun, run_extend h, advance_extend (c.run_length_le p), skipRun]

theorem skipBlanks_extend (h : c.skipBlanks.rest ≠ []) (more : List Char) :
    (c.extend more).skipBlanks = c.skipBlanks.extend more := skipRun_extend h more

/-- Blanks can be skipped in two goes. -/
theorem skipBlanks_again (c : Cursor) (more : List Char) :
    (c.extend more).skipBlanks = (c.skipBlanks.extend more).skipBlanks := by
  by_cases h : c.skipBlanks.rest = []
  · have hdrop : c.rest.dropWhile isBlank = [] := (c.rest_skipRun isBlank).symm.trans h
    have hall : c.rest.takeWhile isBlank = c.rest :=
      List.takeWhile_eq_self_iff.mpr (List.dropWhile_eq_nil_iff.mp hdrop)
    have hrest : (c.skipBlanks.extend more).rest = more := by rw [extend, h, List.nil_append]
    have hrun : (c.extend more).run isBlank =
        c.rest ++ (c.skipBlanks.extend more).run isBlank := by
      rw [run, run, hrest, extend, List.takeWhile_append, if_pos (by rw [hall])]
    have hend : c.skipBlanks = c.advance c.rest.length := by rw [skipBlanks, skipRun, run, hall]
    calc (c.extend more).skipBlanks
        = ((c.extend more).advance c.rest.length).advance
            ((c.skipBlanks.extend more).run isBlank).length := by
          rw [skipBlanks, skipRun, hrun, List.length_append, advance_advance]
      _ = (c.skipBlanks.extend more).skipBlanks := by
          rw [advance_extend (Nat.le_refl _), ← hend]
          rfl
  · have hstop : Stops isBlank (c.skipBlanks.extend more).rest :=
      stops_append h (c.stops_skipRun isBlank)
    rw [skipBlanks_of_stops hstop, skipBlanks_extend h]

theorem rest_ne_nil_of_skipRun {p : Char → Bool} (h : (c.skipRun p).rest ≠ []) : c.rest ≠ [] := by
  intro hnil
  apply h
  rw [rest_skipRun, hnil]
  rfl

end Cursor

open Cursor

/-! ## Names, fixed texts and values -/

section

variable {c c' : Cursor}

theorem expect_extend {text : String} (h : expect text c = .ok c') (more : List Char) :
    expect text (c.extend more) = .ok (c'.extend more) := by
  obtain ⟨hhere, rfl⟩ := expect_ok h
  rw [expect, if_pos (startsWith_extend (startsWith_iff.mpr hhere) more),
    advance_extend hhere.length_le]

/-- Where a fixed text is expected and found, something is left. -/
theorem ne_nil_of_expect {text : String} (htext : text.toList ≠ []) (h : expect text c = .ok c') :
    c.rest ≠ [] := by
  rintro hnil
  have hhere := (expect_ok h).1
  rw [hnil, List.prefix_nil] at hhere
  exact htext hhere

theorem readName_extend {name : String} (h : readName c = .ok (name, c')) (hleft : c'.rest ≠ [])
    (more : List Char) : readName (c.extend more) = .ok (name, c'.extend more) := by
  obtain ⟨hrun, rfl⟩ := readName_ok h
  have hname := (readName_isName h).1
  rw [readName, run_extend hleft, skipRun_extend hleft, hrun, if_neg (by simpa using hname),
    String.ofList_toList]

theorem readEntity_extend {x : Char} (h : readEntity c = .ok (x, c')) (more : List Char) :
    readEntity (c.extend more) = .ok (x, c'.extend more) := by
  unfold readEntity at h
  split at h
  · cases h
  · next i hi =>
    have hle := indexOf?_add_length_le hi
    rw [List.length_singleton] at hle
    have htake : ((c.rest ++ more).take i).drop 1 = (c.rest.take i).drop 1 := by
      rw [List.take_append_of_le_length (by omega)]
    split at h
    · cases h
    · next y hy =>
      obtain ⟨rfl, rfl⟩ := Prod.mk.inj (Except.ok.inj h)
      have hmore : indexOf? [';'] (c.extend more).rest = some i := indexOf?_extend hi more
      rw [readEntity, hmore]
      simp only [extend, htake, hy]
      exact congrArg (fun d => Except.ok (y, d)) (advance_extend hle more)

theorem readValueFrom_extend {quote : Char} {value : List Char} {s : String}
    (h : readValueFrom quote value c = .ok (s, c')) (more : List Char) :
    readValueFrom quote value (c.extend more) = .ok (s, c'.extend more) := by
  fun_induction readValueFrom quote value c with
  | case1 | case3 | case4 => cases h
  | case2 value c rest hc =>
    obtain ⟨rfl, rfl⟩ := Prod.mk.inj (Except.ok.inj h)
    rw [readValueFrom_quote (rest_extend hc more), advance_one_extend hc]
  | case5 value c rest y d hentity hc hquote hlt ih =>
    rw [readValueFrom_entity (rest_extend hc more) hquote value (readEntity_extend hentity more)]
    exact ih h
  | case6 value c x rest hc hquote hlt hamp ih =>
    rw [readValueFrom_plain (rest_extend hc more) value hquote hlt hamp, advance_one_extend hc]
    exact ih h

theorem readValue_extend {s : String} (h : readValue c = .ok (s, c')) (more : List Char) :
    readValue (c.extend more) = .ok (s, c'.extend more) := by
  unfold readValue at h
  split at h
  · next rest hc =>
    rw [readValue, rest_extend hc]
    simp only [advance_one_extend hc]
    exact readValueFrom_extend h more
  · next rest hc =>
    rw [readValue, rest_extend hc]
    simp only [advance_one_extend hc]
    exact readValueFrom_extend h more
  · cases h

/-! ## Tags -/

theorem readAttribute_extend {a : String × String} (h : readAttribute c = .ok (a, c'))
    (more : List Char) : readAttribute (c.extend more) = .ok (a, c'.extend more) := by
  obtain ⟨c₁, c₂, hname, hequals, hvalue⟩ := readAttribute_cases h
  have hbefore : c₁.skipBlanks.rest ≠ [] := ne_nil_of_expect (by decide) hequals
  have hbehind : c₂.skipBlanks.rest ≠ [] :=
    List.ne_nil_of_length_pos (Nat.zero_lt_of_lt (readValue_length_lt hvalue))
  rw [readAttribute, readName_extend hname (rest_ne_nil_of_skipRun hbefore)]
  simp only [skipBlanks_extend hbefore, expect_extend hequals, skipBlanks_extend hbehind,
    readValue_extend hvalue]

theorem readAttributes_extend {f : Frame} {r : Frame × TagEnd}
    (h : readAttributes f c = .ok (r, c')) (more : List Char) :
    readAttributes f (c.extend more) = .ok (r, c'.extend more) := by
  fun_induction readAttributes f c with
  | case1 | case2 | case5 | case6 | case7 => cases h
  | case3 f c rest hrest d hd =>
    obtain ⟨rfl, rfl⟩ := Prod.mk.inj (Except.ok.inj h)
    have hleft : c.skipBlanks.rest ≠ [] := hrest ▸ List.cons_ne_nil _ _
    rw [readAttributes, skipBlanks_extend hleft, rest_extend hrest]
    simp only [expect_extend hd]
  | case4 f c rest hrest =>
    obtain ⟨rfl, rfl⟩ := Prod.mk.inj (Except.ok.inj h)
    have hleft : c.skipBlanks.rest ≠ [] := hrest ▸ List.cons_ne_nil _ _
    rw [readAttributes, skipBlanks_extend hleft, rest_extend hrest]
    simp only [advance_one_extend hrest]
  | case8 f c x rest hslash hbracket hrest hblank a d ha hnew ih =>
    have hleft : c.skipBlanks.rest ≠ [] := hrest ▸ List.cons_ne_nil _ _
    have hmore : (c.extend more).skipBlanks.rest = x :: (rest ++ more) := by
      rw [skipBlanks_extend hleft, rest_extend hrest]
    have hblanks : (c.extend more).run isBlank ≠ [] := by
      rw [run_extend hleft]
      simpa using hblank
    have hattribute : readAttribute (c.extend more).skipBlanks = .ok (a, d.extend more) := by
      rw [skipBlanks_extend hleft]
      exact readAttribute_extend ha more
    rw [readAttributes_turn hmore hslash hbracket hblanks hattribute hnew]
    exact ih h

/-- Attributes have an end, so something is left in front of them. -/
theorem ne_nil_of_readAttributes {f : Frame} {r : Frame × TagEnd}
    (h : readAttributes f c = .ok (r, c')) : c.rest ≠ [] := by
  apply rest_ne_nil_of_skipRun (p := isBlank)
  intro hnil
  have hblanks : c.skipBlanks.rest = [] := hnil
  rw [readAttributes, hblanks] at h
  cases h

theorem readStartTag_extend {r : Frame × TagEnd} (h : readStartTag c = .ok (r, c'))
    (more : List Char) : readStartTag (c.extend more) = .ok (r, c'.extend more) := by
  obtain ⟨c₁, c₂, tag, hopening, hname, hattributes⟩ := readStartTag_cases h
  rw [readStartTag, expect_extend hopening]
  simp only [readName_extend hname (ne_nil_of_readAttributes hattributes)]
  exact readAttributes_extend hattributes more

theorem readEndTag_extend {f : Frame} (h : readEndTag f c = .ok c') (more : List Char) :
    readEndTag f (c.extend more) = .ok (c'.extend more) := by
  obtain ⟨c₁, hname, hend⟩ := readEndTag_cases h
  have hleft : c₁.skipBlanks.rest ≠ [] := ne_nil_of_expect (by decide) hend
  rw [readEndTag, readName_extend hname (rest_ne_nil_of_skipRun hleft)]
  simp only [if_pos, skipBlanks_extend hleft, expect_extend hend]

/-! ## Asides -/

/-- Skipping goes on where the first text ended. -/
theorem skipAsides_extend (h : skipAsides c = .ok c') (more : List Char) :
    skipAsides (c.extend more) = skipAsides (c'.extend more) := by
  fun_induction skipAsides c with
  | case1 c =>
    obtain rfl := Except.ok.inj h
    exact skipAsides_congr (skipBlanks_again c more)
  | case2 => cases h
  | case3 c a hfirst i hi ih =>
    have hopening : a.opening <+: (c.skipBlanks.extend more).rest :=
      (find?_opening.mp hfirst).trans (List.prefix_append _ _)
    rw [skipAsides_congr (skipBlanks_again c more),
      skipAsides_found (skipBlanks_of_opening hopening) (find?_opening.mpr hopening)
        (indexOf?_extend hi more), advance_extend (indexOf?_add_length_le hi)]
    exact ih h

/-- In front of a tag there is nothing more to skip. -/
theorem skipAsides_extend_tag (h : skipAsides c = .ok c') {x : Char} {s : List Char}
    (hrest : c'.rest = '<' :: x :: s) (hbang : x ≠ '!') (hmark : x ≠ '?') (more : List Char) :
    skipAsides (c.extend more) = .ok (c'.extend more) := by
  rw [skipAsides_extend h]
  apply skipAsides_of_startsTag
  exact .inr ⟨x, s ++ more, rest_extend hrest more, hbang, hmark⟩

/-! ## Elements -/

theorem step_extend {f : Frame} {turn : Turn} (h : step f c = .ok (turn, c')) (more : List Char) :
    step f (c.extend more) = .ok (turn, c'.extend more) := by
  obtain ⟨d, hasides, ⟨rfl, hhere, hend⟩ | ⟨g, last, rfl, hstart⟩⟩ := step_cases h
  · obtain ⟨s, hs⟩ := hhere
    refine step_end (skipAsides_extend_tag hasides hs.symm (by decide) (by decide) more)
      ⟨s ++ more, by rw [extend, ← hs]; rfl⟩ ?_
    rw [advance_extend (by rw [← hs]; exact Nat.le_add_left _ _)]
    exact readEndTag_extend hend more
  · obtain ⟨x, s, hrest, hx⟩ := readStartTag_startsTag hstart
    exact step_start (skipAsides_extend_tag hasides hrest (ne_of_isNameChar hx (by decide))
      (ne_of_isNameChar hx (by decide)) more) (readStartTag_extend hstart more)

theorem readContents_extend {f : Frame} {outer : List Frame} {e : Element}
    (h : readContents f outer c = .ok (e, c')) (more : List Char) :
    readContents f outer (c.extend more) = .ok (e, c'.extend more) := by
  fun_induction readContents f outer c with
  | case1 => cases h
  | case2 f outer c d c₁ hstep ih =>
    rw [readContents_child (step_extend hstep more)]
    exact ih h
  | case3 f outer c g c₁ hstep ih =>
    rw [readContents_opened (step_extend hstep more)]
    exact ih h
  | case4 f c c₁ hstep =>
    obtain ⟨rfl, rfl⟩ := Prod.mk.inj (Except.ok.inj h)
    exact readContents_done (step_extend hstep more)
  | case5 f c c₁ hstep g gs ih =>
    rw [readContents_closed (step_extend hstep more)]
    exact ih h

/-- An element has an end of its own. -/
theorem readElement_extend {e : Element} (h : readElement c = .ok (e, c')) (more : List Char) :
    readElement (c.extend more) = .ok (e, c'.extend more) := by
  obtain ⟨f, last, d, hstart, ⟨rfl, rfl, rfl⟩ | ⟨rfl, hcontents⟩⟩ := readElement_cases h
  · rw [readElement, readStartTag_extend hstart]
  · rw [readElement, readStartTag_extend hstart]
    exact readContents_extend hcontents more

end

section

variable {c c' : Cursor}

/-! ## Documents -/

theorem ofText_append {s : String} (h : (Cursor.ofText s).rest ≠ []) (t : String) :
    Cursor.ofText (s ++ t) = (Cursor.ofText s).extend t.toList := by
  unfold Cursor.ofText at h ⊢
  rw [String.toList_append]
  cases hs : s.toList with
  | nil =>
    rw [hs] at h
    exact absurd rfl h
  | cons x cs =>
    rw [List.cons_append]
    by_cases hx : x = '\ufeff'
    · subst hx
      rfl
    · split
      · next heq => exact absurd (List.cons.inj heq).1 hx
      · split
        · next heq => exact absurd (List.cons.inj heq).1 hx
        · rfl

end

/-- Behind a document, a text is accepted if it is a gap, and changes nothing. -/
theorem read_append {s : String} {root : Element} (h : read s = .ok root) (t : String)
    (root' : Element) : read (s ++ t) = .ok root' ↔ root' = root ∧ IsGap t.toList := by
  obtain ⟨c, c', c'', hbefore, helement, hbehind, hend⟩ := read_iff.mp h
  obtain ⟨f, last, d, hstart, -⟩ := readElement_cases helement
  obtain ⟨x, r, hrest, hx⟩ := readStartTag_startsTag hstart
  have hsome : (Cursor.ofText s).rest ≠ [] := by
    intro hnil
    have hle := skipAsides_length_le hbefore
    rw [hnil, hrest] at hle
    exact Nat.not_succ_le_zero _ hle
  have hbefore' : skipAsides (Cursor.ofText (s ++ t)) = .ok (c.extend t.toList) := by
    rw [ofText_append hsome]
    exact skipAsides_extend_tag hbefore hrest (ne_of_isNameChar hx (by decide))
      (ne_of_isNameChar hx (by decide)) _
  have helement' := readElement_extend helement t.toList
  have hbehind' := skipAsides_extend hbehind t.toList
  have hleft : (c''.extend t.toList).rest = t.toList := by rw [extend, hend, List.nil_append]
  constructor
  · intro h'
    obtain ⟨d, d', d'', hd, hd', hd'', hnone⟩ := read_iff.mp h'
    obtain rfl := Except.ok.inj (hbefore'.symm.trans hd)
    obtain ⟨rfl, rfl⟩ := Prod.mk.inj (Except.ok.inj (helement'.symm.trans hd'))
    rw [hbehind'] at hd''
    exact ⟨rfl, hleft ▸ skipAsides_end_iff.mp ⟨d'', hd'', hnone⟩⟩
  · rintro ⟨rfl, hgap⟩
    obtain ⟨d, hd, hnone⟩ := skipAsides_end_iff.mpr (hleft.symm ▸ hgap)
    exact read_iff.mpr ⟨_, _, d, hbefore', helement', hbehind'.trans hd, hnone⟩

/-- A text that is a document by itself has the root of every document that it begins.  So what is
left of a document that was cut off is no document, or has the same root, and then all that was
lost is a gap. -/
theorem read_truncated :
    (∀ (s t : String) (root root' : Element), read s = .ok root → read (s ++ t) = .ok root' →
      root' = root) ∧
    (∀ (s t : String) (root : Element), read (s ++ t) = .ok root →
      (∃ failure, read s = .error failure) ∨ read s = .ok root ∧ IsGap t.toList) ∧
    ∀ (s t : String) (root : Element), read s = .ok root → IsGap t.toList →
      read (s ++ t) = .ok root := by
  refine ⟨fun s t root root' h h' => ((read_append h t root').mp h').1, fun s t root h' => ?_,
    fun s t root h hgap => (read_append h t root).mpr ⟨rfl, hgap⟩⟩
  cases h : read s with
  | error failure => exact .inl ⟨failure, rfl⟩
  | ok first =>
    obtain ⟨rfl, hgap⟩ := (read_append h t root).mp h'
    exact .inr ⟨rfl, hgap⟩

/-- A document whose tags hold brackets and blanks. -/
def padded : String := "<a x='>/'><b/></a >"

/-- A blank, the shortest comment and a declaration. -/
def padding : String := "\n<!--><!DOCTYPE a>"

theorem read_truncated_padded : ∃ root root', read padded = .ok root ∧
    read (padded ++ padding) = .ok root' ∧ root' = root ∧ IsGap padding.toList ∧
    read (padded ++ padding) = .ok root := by
  have hread : (match read padded, read (padded ++ padding) with
      | .ok _, .ok _ => true
      | _, _ => false) = true := by
    decide +kernel
  split at hread
  · next root root' h h' =>
    have hgap : IsGap padding.toList := by
      obtain ⟨failure, hfailure⟩ | ⟨-, hgap⟩ := read_truncated.2.1 padded padding root' h'
      · rw [h] at hfailure
        cases hfailure
      · exact hgap
    exact ⟨root, root', h, h', read_truncated.1 padded padding root root' h h', hgap,
      read_truncated.2.2 padded padding root h hgap⟩
  · cases hread

end Markup

end SceneGraph
