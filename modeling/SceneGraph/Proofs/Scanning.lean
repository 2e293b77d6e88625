import Mathlib.Data.List.TakeWhile
import SceneGraph.Proofs.Elements
import SceneGraph.Proofs.Printing

/-!
# Scanning what was written

A reader that stands in front of the written form of what it reads takes exactly that: it gives
the thing back and stands behind it.  `readStartTag_print` and `readEndTag_print` say so of
tags.  Where a form has no end of its own, the text behind it must not go on with it (`Stops`).
-/

namespace SceneGraph.Text

/-! ## Characters -/

theorem Ranges.exists_of_contains {rs : Ranges} {n : Nat} (h : rs.contains n = true) :
    ∃ r ∈ rs, r.1 ≤ n ∧ n ≤ r.2 := by
  induction rs with
  | nil => cases h
  | cons r rs ih =>
    rw [contains] at h
    split at h
    · cases h
    · rcases Bool.or_eq_true_iff.mp h with h | h
      · exact ⟨r, List.mem_cons_self, by omega, by simpa using h⟩
      · obtain ⟨s, hs, hn⟩ := ih h
        exact ⟨s, List.mem_cons_of_mem _ hs, hn⟩

theorem blank_alphanumeric_disjoint :
    ∀ b ∈ blankRanges, ∀ a ∈ alphanumericRanges, b.2 < a.1 ∨ a.2 < b.1 := by
  decide +kernel

theorem isAlphanumeric_of_blank {c : Char} (h : isBlank c = true) : isAlphanumeric c = false := by
  rw [Bool.eq_false_iff]
  intro ha
  obtain ⟨b, hb, hbc⟩ := Ranges.exists_of_contains h
  obtain ⟨a, ha, hac⟩ := Ranges.exists_of_contains ha
  have := blank_alphanumeric_disjoint b hb a ha
  omega

/-- A character is found where it stands first. -/
theorem indexOf?_singleton {x : Char} {cs : List Char} (h : x ∉ cs) (r : List Char) :
    indexOf? [x] (cs ++ x :: r) = some cs.length := by
  induction cs with
  | nil => simp [indexOf?]
  | cons c cs ih =>
    obtain ⟨hc, hcs⟩ := not_or.mp (mt List.mem_cons.mpr h)
    rw [List.cons_append, indexOf?, if_neg (by simp [hc]), ih hcs]
    rfl

end SceneGraph.Text

namespace SceneGraph.Markup

open Text

theorem not_blank_of_isNameChar {c : Char} (h : isNameChar c = true) : isBlank c = false := by
  rw [Bool.eq_false_iff]
  intro hb
  have ha := isAlphanumeric_of_blank hb
  simp only [isNameChar, ha, Bool.false_or, Bool.or_eq_true, beq_iff_eq] at h
  rcases h with ((rfl | rfl) | rfl) | rfl <;> exact absurd hb (by decide)

theorem ne_of_isNameChar {c d : Char} (hc : isNameChar c = true) (hd : isNameChar d = false) :
    c ≠ d := by
  rintro rfl
  rw [hc] at hd
  cases hd

/-- A text that does not go on with characters of a class. -/
def Stops (p : Char → Bool) (r : List Char) : Prop := ∀ x ∈ r.head?, p x = false

theorem stops_cons {p : Char → Bool} {x : Char} {r : List Char} (h : p x = false) :
    Stops p (x :: r) := by
  intro y hy
  rwa [← Option.some.inj hy]

theorem stops_append {p : Char → Bool} {a r : List Char} (ha : a ≠ []) (h : Stops p a) :
    Stops p (a ++ r) := by
  cases a with
  | nil => exact absurd rfl ha
  | cons x a => exact h

/-! ## Cursors -/

namespace Cursor

theorem advance_append (c : Cursor) (a b : List Char) :
    (c.advance a.length).advance b.length = c.advance (a ++ b).length := by
  rw [advance_advance, List.length_append]

variable {c : Cursor} {a r : List Char}

theorem rest_behind (h : c.rest = a ++ r) : (c.advance a.length).rest = r := by
  rw [rest_advance, h, List.drop_left]

theorem run_eq {p : Char → Bool} (h : c.rest = a ++ r) (ha : ∀ x ∈ a, p x = true)
    (hr : Stops p r) : c.run p = a := by
  have hnil : r.takeWhile p = [] := by
    cases r with
    | nil => rfl
    | cons x r => exact List.takeWhile_cons_of_neg (by simp [hr x rfl])
  rw [run, h, List.takeWhile_append_of_pos ha, hnil, List.append_nil]

theorem skipRun_eq {p : Char → Bool} (h : c.rest = a ++ r) (ha : ∀ x ∈ a, p x = true)
    (hr : Stops p r) : c.skipRun p = c.advance a.length := by
  rw [skipRun, run_eq h ha hr]

theorem skipBlanks_of_stops (h : Stops isBlank c.rest) : c.skipBlanks = c :=
  skipRun_eq (a := []) rfl (List.forall_mem_nil _) h

theorem startsWith_iff {text : List Char} : c.startsWith text = true ↔ text <+: c.rest :=
  List.isPrefixOf_iff_prefix

end Cursor

/-! ## Names and values -/

section

variable {c : Cursor} {r : List Char}

theorem IsName.stops_blank {name : String} (h : IsName name) (r : List Char) :
    Stops isBlank (name.toList ++ r) := by
  refine stops_append h.1 fun x hx => not_blank_of_isNameChar (h.2 x ?_)
  exact List.mem_of_mem_head? hx

theorem expect_print {text : String} (h : c.rest = text.toList ++ r) :
    expect text c = .ok (c.advance text.toList.length) := by
  rw [expect, if_pos]
  rw [Cursor.startsWith_iff, h]
  exact List.prefix_append _ _

theorem readName_print {name : String} (h : c.rest = name.toList ++ r) (hname : IsName name)
    (hr : Stops isNameChar r) : readName c = .ok (name, c.advance name.toList.length) := by
  rw [readName, Cursor.skipRun_eq h hname.2 hr, Cursor.run_eq h hname.2 hr, if_neg (by simpa using hname.1),
    String.ofList_toList]

theorem readEntity_print (name : List Char) {x : Char} (h : c.rest = '&' :: name ++ ';' :: r)
    (hname : ';' ∉ name) (hx : entity? name = some x) :
    readEntity c = .ok (x, c.advance ('&' :: (name ++ [';'])).length) := by
  have hindex : indexOf? [';'] c.rest = some ('&' :: name).length := by
    rw [h]
    exact indexOf?_singleton (mt List.mem_cons.mp (not_or.mpr ⟨by decide, hname⟩)) r
  have hentity : (c.rest.take ('&' :: name).length).drop 1 = name := by
    rw [h, List.take_left, List.drop_one, List.tail_cons]
  rw [readEntity, hindex]
  simp only [hentity, hx]
  simp

/-! One turn of the loop over the characters of a value. -/

theorem readValueFrom_quote {quote : Char} (h : c.rest = quote :: r) (value : List Char) :
    readValueFrom quote value c = .ok (String.ofList value.reverse, c.advance 1) := by
  rw [readValueFrom]
  split
  · next hc => simp [hc] at h
  · next x _ hc =>
    obtain rfl : x = quote := by simp_all
    exact if_pos rfl

theorem readValueFrom_entity {quote y : Char} {c' : Cursor} (h : c.rest = '&' :: r)
    (hquote : '&' ≠ quote) (value : List Char) (hentity : readEntity c = .ok (y, c')) :
    readValueFrom quote value c = readValueFrom quote (y :: value) c' := by
  rw [readValueFrom]
  split
  · next hc => simp [hc] at h
  · next x _ hc =>
    obtain rfl : x = '&' := by simp_all
    rw [if_neg hquote, if_neg (by decide), if_pos rfl]
    split
    · next he => simp [he] at hentity
    · next he =>
      rw [hentity] at he
      obtain ⟨rfl, rfl⟩ := Prod.mk.inj (Except.ok.inj he)
      rfl

theorem readValueFrom_plain {quote x : Char} (h : c.rest = x :: r) (value : List Char)
    (hquote : x ≠ quote) (hlt : x ≠ '<') (hamp : x ≠ '&') :
    readValueFrom quote value c = readValueFrom quote (x :: value) (c.advance 1) := by
  rw [readValueFrom]
  split
  · next hc => simp [hc] at h
  · next y _ hc =>
    obtain rfl : y = x := by simp_all
    rw [if_neg hquote, if_neg hlt, if_neg hamp]

/-- One character of a value is read back. -/
theorem readValueFrom_escape {x : Char} (h : c.rest = escape x ++ r) (value : List Char) :
    readValueFrom '"' value c = readValueFrom '"' (x :: value) (c.advance (escape x).length) := by
  unfold escape at h ⊢
  split_ifs at h ⊢ with hamp hlt hquote
  · subst hamp
    exact readValueFrom_entity h (by decide) value
      (readEntity_print ['a', 'm', 'p'] h (by decide) rfl)
  · subst hlt
    exact readValueFrom_entity h (by decide) value
      (readEntity_print ['l', 't'] h (by decide) rfl)
  · subst hquote
    exact readValueFrom_entity h (by decide) value
      (readEntity_print ['q', 'u', 'o', 't'] h (by decide) rfl)
  · exact readValueFrom_plain h value hquote hlt hamp

theorem readValueFrom_print (cs value : List Char)
    (h : c.rest = cs.flatMap escape ++ '"' :: r) :
    readValueFrom '"' value c =
      .ok (String.ofList (value.reverse ++ cs), c.advance (cs.flatMap escape ++ ['"']).length) := by
  induction cs generalizing c value with
  | nil =>
    rw [readValueFrom_quote h value]
    simp
  | cons x cs ih =>
    rw [List.flatMap_cons, List.append_assoc] at h
    rw [readValueFrom_escape h value, ih _ (Cursor.rest_behind h), Cursor.advance_append]
    simp

theorem readValue_print {value : String} (h : c.rest = printValue value ++ r) :
    readValue c = .ok (value, c.advance (printValue value).length) := by
  have hrest : c.rest = '"' :: (value.toList.flatMap escape ++ '"' :: r) := by
    rw [h]
    simp [printValue]
  have hbehind := readValueFrom_print value.toList [] (Cursor.rest_behind (a := ['"']) hrest)
  rw [Cursor.advance_append] at hbehind
  unfold readValue
  rw [hrest]
  exact hbehind.trans (by simp [printValue])

end

/-! ## Tags -/

section

variable {c : Cursor} {r : List Char}

theorem readAttribute_print {a : String × String} (ha : IsName a.1)
    (h : c.rest = a.1.toList ++ '=' :: printValue a.2 ++ r) :
    readAttribute c = .ok (a, c.advance (a.1.toList ++ '=' :: printValue a.2).length) := by
  have h₁ : c.rest = a.1.toList ++ ("=".toList ++ (printValue a.2 ++ r)) := by
    rw [h]
    simp
  have h₂ := Cursor.rest_behind h₁
  have h₃ := Cursor.rest_behind h₂
  have hequals : Stops isBlank ("=".toList ++ (printValue a.2 ++ r)) := stops_cons (by decide)
  have hquote : Stops isBlank (printValue a.2 ++ r) := stops_cons (by decide)
  rw [readAttribute, readName_print h₁ ha (stops_cons (by decide))]
  simp only [Cursor.skipBlanks_of_stops (h₂ ▸ hequals), expect_print h₂]
  simp only [Cursor.skipBlanks_of_stops (h₃ ▸ hquote), readValue_print h₃]
  simp only [Cursor.advance_append]
  simp

/-- One turn of the loop over the attributes of a tag. -/
theorem readAttributes_turn {f : Frame} {a : String × String} {d : Cursor} {x : Char}
    (hrest : c.skipBlanks.rest = x :: r) (hslash : x ≠ '/') (hbracket : x ≠ '>')
    (hblank : c.run isBlank ≠ []) (ha : readAttribute c.skipBlanks = .ok (a, d))
    (hnew : ¬ f.attributes.any (·.1 = a.1) = true) :
    readAttributes f c = readAttributes (f.addAttribute a) d := by
  rw [readAttributes]
  split
  · next hc => simp [hrest] at hc
  · next hc => exact absurd (List.cons.inj (hrest.symm.trans hc)).1 hslash
  · next hc => exact absurd (List.cons.inj (hrest.symm.trans hc)).1 hbracket
  · rw [if_neg (by simpa using hblank)]
    split
    · next he => simp [he] at ha
    · next he =>
      rw [ha] at he
      obtain ⟨rfl, rfl⟩ := Prod.mk.inj (Except.ok.inj he)
      exact if_neg hnew

/-- An attribute is read and added. -/
theorem readAttributes_attribute {f : Frame} {a : String × String} (ha : IsName a.1)
    (hnew : a.1 ∉ f.attributes.map (·.1)) (h : c.rest = printAttribute a ++ r) :
    readAttributes f c =
      readAttributes (f.addAttribute a) (c.advance (printAttribute a).length) := by
  have h₁ : c.rest = [' '] ++ (a.1.toList ++ '=' :: printValue a.2 ++ r) := by
    rw [h]
    simp [printAttribute]
  have hblank : ∀ x ∈ [' '], isBlank x = true := List.forall_mem_singleton.mpr (by decide)
  have hstop : Stops isBlank (a.1.toList ++ '=' :: printValue a.2 ++ r) := by
    rw [List.append_assoc]
    exact ha.stops_blank _
  have hskip : c.skipBlanks = c.advance [' '].length := Cursor.skipRun_eq h₁ hblank hstop
  have hrest : c.skipBlanks.rest = a.1.toList ++ '=' :: printValue a.2 ++ r := by
    rw [hskip]
    exact Cursor.rest_behind h₁
  have hattribute : readAttribute c.skipBlanks =
      .ok (a, c.advance (printAttribute a).length) := by
    rw [readAttribute_print ha hrest, hskip, Cursor.advance_append]
    rfl
  obtain ⟨x, xs, hx⟩ := List.exists_cons_of_ne_nil ha.1
  have hname : isNameChar x = true := ha.2 x (by simp [hx])
  have hblanks : c.run isBlank ≠ [] := by
    rw [Cursor.run_eq h₁ hblank hstop]
    exact List.cons_ne_nil _ _
  rw [hx] at hrest
  refine readAttributes_turn hrest (ne_of_isNameChar hname (by decide))
    (ne_of_isNameChar hname (by decide)) hblanks hattribute ?_
  rw [List.any_eq_true]
  rintro ⟨b, hb, hab⟩
  exact hnew (List.mem_map.mpr ⟨b, hb, of_decide_eq_true hab⟩)

theorem readAttributes_end {f : Frame} {last : TagEnd} (h : c.rest = last.print ++ r) :
    readAttributes f c = .ok ((f, last), c.advance last.print.length) := by
  have hskip : c.skipBlanks = c := by
    apply Cursor.skipBlanks_of_stops
    rw [h]
    cases last <;> exact stops_cons (by decide)
  rw [readAttributes, hskip]
  cases last with
  | empty =>
    have hexpect : expect "/>" c = .ok (c.advance "/>".toList.length) := expect_print h
    rw [h]
    simp only [TagEnd.print, List.cons_append, hexpect]
    rfl
  | opened =>
    rw [h]
    rfl

theorem readAttributes_print {last : TagEnd} (attributes : List (String × String)) :
    ∀ {f : Frame} {c : Cursor}, (∀ a ∈ attributes, IsName a.1) →
      ((f.attributes ++ attributes).map (·.1)).Nodup →
      c.rest = attributes.flatMap printAttribute ++ (last.print ++ r) →
      readAttributes f c = .ok (({ f with attributes := f.attributes ++ attributes }, last),
        c.advance (attributes.flatMap printAttribute ++ last.print).length) := by
  induction attributes with
  | nil =>
    intro f c _ _ h
    rw [readAttributes_end h]
    simp
  | cons a attributes ih =>
    intro f c hnames hdistinct h
    obtain ⟨ha, hrest⟩ := List.forall_mem_cons.mp hnames
    have hnew : a.1 ∉ f.attributes.map (·.1) := by
      intro hmem
      rw [List.map_append, List.nodup_append] at hdistinct
      exact hdistinct.2.2 _ hmem _ List.mem_cons_self rfl
    rw [List.flatMap_cons, List.append_assoc] at h
    rw [readAttributes_attribute ha hnew h]
    rw [ih (f := f.addAttribute a) hrest (by simpa [Frame.addAttribute] using hdistinct)
      (Cursor.rest_behind h), Cursor.advance_append]
    simp [Frame.addAttribute]

/-- A start tag is read back. -/
theorem readStartTag_print {tag : String} {attributes : List (String × String)} {last : TagEnd}
    (htag : IsName tag) (hnames : ∀ a ∈ attributes, IsName a.1)
    (hdistinct : (attributes.map (·.1)).Nodup)
    (h : c.rest = printStartTag tag attributes last ++ r) :
    readStartTag c = .ok ((⟨tag, attributes, c.location, []⟩, last),
      c.advance (printStartTag tag attributes last).length) := by
  have h₁ : c.rest =
      "<".toList ++ (tag.toList ++ (attributes.flatMap printAttribute ++ (last.print ++ r))) := by
    rw [h]
    simp [printStartTag]
  have h₂ := Cursor.rest_behind h₁
  have hstop : Stops isNameChar (attributes.flatMap printAttribute ++ (last.print ++ r)) := by
    cases attributes with
    | nil => cases last <;> exact stops_cons (by decide)
    | cons a attributes => exact stops_cons (by decide)
  rw [readStartTag, expect_print h₁]
  simp only [readName_print h₂ htag hstop]
  rw [readAttributes_print attributes hnames (by simpa using hdistinct) (Cursor.rest_behind h₂)]
  simp only [Cursor.advance_append, List.nil_append]
  simp [printStartTag]

/-- An end tag is read back, from behind its first two characters. -/
theorem readEndTag_print {f : Frame} (htag : IsName f.tag)
    (h : c.rest = f.tag.toList ++ ['>'] ++ r) :
    readEndTag f c = .ok (c.advance (f.tag.toList ++ ['>']).length) := by
  have h₁ : c.rest = f.tag.toList ++ (">".toList ++ r) := by
    rw [h]
    simp
  have h₂ := Cursor.rest_behind h₁
  have hstop : Stops isBlank (">".toList ++ r) := stops_cons (by decide)
  rw [readEndTag, readName_print h₁ htag (stops_cons (by decide))]
  simp only [if_pos, Cursor.skipBlanks_of_stops (h₂ ▸ hstop), expect_print h₂,
    Cursor.advance_append]
  rfl

end

end SceneGraph.Markup
