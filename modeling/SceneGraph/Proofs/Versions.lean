import SceneGraph.Preamble
import SceneGraph.Proofs.NumberLiterals

/-!
# Which versions are let in

The reader of a version takes off the blanks, cuts the text at every dot and reads three parts.  The
grammar goes the other way and puts a text together from three numbers, two dots and blanks:

    readUnsigned32 cs = some n      ↔ cs writes n, and n has 32 bits     (readUnsigned32_iff)
    Version.read text = some v      ↔ v stands in the text               (read_iff)
    Version.read v.text = some v    ↔ the numbers of v have 32 bits      (read_text_iff)

The two agree since a number holds no dot (`WritesNatural.no_dot`) and no blank.  A version is
supported if it is no older than the oldest one in the order of versions, and its major number is not
too new; the oldest one ends in zeros, so the major number alone decides (`isSupported_iff`).
-/

namespace SceneGraph

/-! ## Cutting a text -/

namespace Text

theorem splitAt_eq_splitOn (sep : Char) (cs : List Char) : splitAt sep cs = cs.splitOn sep := by
  induction cs with
  | nil => rfl
  | cons c cs ih =>
    have hne := List.splitOn_ne_nil sep cs
    rw [splitAt, ih, List.splitOn_cons_eq_if_modifyHead]
    by_cases hc : c = sep
    · simp [hc]
    · cases hparts : cs.splitOn sep with
      | nil => exact absurd hparts hne
      | cons part parts => simp [hc]

/-- A text that holds a separator twice is cut into three parts, and no other text is. -/
theorem splitAt_eq_three_iff {sep : Char} {cs a b c : List Char} (ha : sep ∉ a) (hb : sep ∉ b)
    (hc : sep ∉ c) : splitAt sep cs = [a, b, c] ↔ cs = a ++ sep :: (b ++ sep :: c) := by
  rw [splitAt_eq_splitOn]
  constructor
  · intro hparts
    have hjoin : [sep].intercalate (cs.splitOn sep) = cs := List.intercalate_splitOn sep
    rw [hparts] at hjoin
    simpa [List.intercalate] using hjoin.symm
  · rintro rfl
    rw [List.splitOn_append_cons_self_of_not_mem ha, List.splitOn_append_cons_self_of_not_mem hb,
      List.splitOn_eq_singleton hc]

/-- What is trimmed off a text are blanks at its two ends. -/
theorem exists_trim (cs : List Char) : ∃ before after, cs = before ++ trim cs ++ after ∧
    (∀ c ∈ before, isBlank c = true) ∧ ∀ c ∈ after, isBlank c = true := by
  refine ⟨cs.takeWhile isBlank, ((trimLeft cs).reverse.takeWhile isBlank).reverse, ?_,
    fun c hc => List.mem_takeWhile_imp hc,
    fun c hc => List.mem_takeWhile_imp (List.mem_reverse.mp hc)⟩
  have hright : trim cs ++ ((trimLeft cs).reverse.takeWhile isBlank).reverse = trimLeft cs := by
    rw [trim, trimRight, ← List.reverse_append, List.takeWhile_append_dropWhile,
      List.reverse_reverse]
  rw [List.append_assoc, hright]
  exact List.takeWhile_append_dropWhile.symm

end Text

/-! ## Numbers without a minus -/

namespace Decimal

/-- An optional plus sign and one or more digits, with the value `n`. -/
def WritesNatural (n : Nat) : List Char → Prop :=
  Signed fun s ds => s ≠ .minus ∧ ds ≠ [] ∧ Digits ds ∧ n = placeValue ds

/-- The whole numbers of 32 bits without a sign. -/
def Fits32 (n : Nat) : Prop := n ≤ 4294967295

theorem fitsUnsigned32_iff {n : Nat} : fitsUnsigned32 n = true ↔ Fits32 n := by
  rw [fitsUnsigned32, decide_eq_true_eq]
  exact Nat.lt_succ_iff

theorem readUnsigned_of_unsigned {cs : List Char} (h : Unsigned cs) :
    readUnsigned cs = readNatural cs := by
  cases cs with
  | nil => rfl
  | cons c cs => simp [readUnsigned, h c rfl]

theorem readUnsigned_iff {cs : List Char} {n : Nat} :
    readUnsigned cs = some n ↔ WritesNatural n cs := by
  have hunsigned : ∀ (s : Sign) (ds : List Char),
      s ≠ .minus ∧ ds ≠ [] ∧ Digits ds ∧ n = placeValue ds → Unsigned ds :=
    fun _ _ h => h.2.2.1.unsigned
  rcases sign_cases cs with ⟨ds, rfl⟩ | ⟨ds, rfl⟩ | hcs
  · rw [WritesNatural, signed_plus hunsigned, readUnsigned]
    simpa using readNatural_iff
  · rw [WritesNatural, signed_minus hunsigned]
    refine iff_of_false ?_ fun h => h.1 rfl
    -- No sign is cut off here, so the minus would have to be a digit.
    intro hread
    obtain ⟨-, hdigits, -⟩ := readNatural_iff.mp (show readNatural ('-' :: ds) = some n from hread)
    exact absurd (hdigits '-' List.mem_cons_self) (by decide)
  · rw [WritesNatural, signed_unsigned hcs, readUnsigned_of_unsigned hcs]
    simpa using readNatural_iff

theorem readUnsigned32_iff {cs : List Char} {n : Nat} :
    readUnsigned32 cs = some n ↔ WritesNatural n cs ∧ Fits32 n := by
  rw [readUnsigned32, Option.filter_eq_some_iff, readUnsigned_iff, fitsUnsigned32_iff]

theorem writesNatural_repr (n : Nat) : WritesNatural n n.repr.toList :=
  ⟨.none, Nat.toDigits 10 n, Nat.toList_repr, nofun, Nat.toDigits_ne_nil, digits_toDigits n,
    (placeValue_toDigits n).symm⟩

section

variable {n : Nat} {cs : List Char} (h : WritesNatural n cs)

include h

theorem WritesNatural.writesInteger : WritesInteger n cs := by
  obtain ⟨s, ds, rfl, hsign, hne, hdigits, rfl⟩ := h
  refine ⟨s, ds, rfl, hne, hdigits, ?_⟩
  cases s with
  | none => rfl
  | plus => rfl
  | minus => exact absurd rfl hsign

theorem WritesNatural.no_dot : '.' ∉ cs := by
  obtain ⟨s, ds, rfl, -, -, hdigits, -⟩ := h
  intro hdot
  rcases List.mem_append.mp hdot with hdot | hdot
  · cases s <;> simp [Sign.spell] at hdot
  · exact absurd (hdigits '.' hdot) (by decide)

end

end Decimal

/-! ## Versions -/

namespace Version

open Decimal

/-- Three numbers of 32 bits, joined by two dots. -/
def Spelling (v : Version) (cs : List Char) : Prop :=
  ∃ a b c, cs = a ++ '.' :: (b ++ '.' :: c) ∧ (WritesNatural v.major a ∧ Fits32 v.major) ∧
    (WritesNatural v.minor b ∧ Fits32 v.minor) ∧ (WritesNatural v.patch c ∧ Fits32 v.patch)

/-- A spelling of the version is all there is in the text, apart from blanks around it. -/
def StandsIn (v : Version) (text : String) : Prop :=
  ∃ before core after, text.toList = before ++ core ++ after ∧
    (∀ c ∈ before, Text.isBlank c = true) ∧ (∀ c ∈ after, Text.isBlank c = true) ∧ v.Spelling core

/-- Each number of the version has 32 bits. -/
structure Fits (v : Version) : Prop where
  major : Fits32 v.major
  minor : Fits32 v.minor
  patch : Fits32 v.patch

variable {v : Version} {cs : List Char}

theorem Spelling.fits (h : v.Spelling cs) : v.Fits := by
  obtain ⟨a, b, c, -, ⟨-, hmajor⟩, ⟨-, hminor⟩, ⟨-, hpatch⟩⟩ := h
  exact ⟨hmajor, hminor, hpatch⟩

theorem Spelling.ne_nil (h : v.Spelling cs) : cs ≠ [] := by
  obtain ⟨a, b, c, rfl, -⟩ := h
  simp

theorem Spelling.not_blank (h : v.Spelling cs) : ∀ x ∈ cs, Text.isBlank x = false := by
  obtain ⟨a, b, c, rfl, ⟨ha, -⟩, ⟨hb, -⟩, ⟨hc, -⟩⟩ := h
  have hdot : Text.isBlank '.' = false := by decide
  intro x hx
  simp only [List.mem_append, List.mem_cons] at hx
  rcases hx with hx | rfl | hx | rfl | hx
  · exact ha.writesInteger.not_blank x hx
  · exact hdot
  · exact hb.writesInteger.not_blank x hx
  · exact hdot
  · exact hc.writesInteger.not_blank x hx

/-- The parts of a text are read as they are cut. -/
theorem read_eq_some_iff_parts {text : String} : read text = some v ↔
    ∃ a b c, Text.splitAt '.' (Text.trim text.toList) = [a, b, c] ∧
      readUnsigned32 a = some v.major ∧ readUnsigned32 b = some v.minor ∧
      readUnsigned32 c = some v.patch := by
  constructor
  · intro h
    unfold read at h
    split at h
    · next a b c hparts =>
      obtain ⟨major, hmajor, h⟩ := Option.bind_eq_some_iff.mp h
      obtain ⟨minor, hminor, h⟩ := Option.bind_eq_some_iff.mp h
      obtain ⟨patch, hpatch, h⟩ := Option.bind_eq_some_iff.mp h
      obtain rfl := Option.some.inj h
      exact ⟨a, b, c, hparts, hmajor, hminor, hpatch⟩
    · cases h
  · rintro ⟨a, b, c, hparts, hmajor, hminor, hpatch⟩
    unfold read
    rw [hparts]
    simp only [hmajor, hminor, hpatch]
    rfl

theorem read_iff_trim {text : String} :
    read text = some v ↔ v.Spelling (Text.trim text.toList) := by
  simp only [read_eq_some_iff_parts, readUnsigned32_iff]
  constructor
  · rintro ⟨a, b, c, hparts, ha, hb, hc⟩
    rw [Text.splitAt_eq_three_iff ha.1.no_dot hb.1.no_dot hc.1.no_dot] at hparts
    exact ⟨a, b, c, hparts, ha, hb, hc⟩
  · rintro ⟨a, b, c, hcore, ha, hb, hc⟩
    rw [← Text.splitAt_eq_three_iff ha.1.no_dot hb.1.no_dot hc.1.no_dot] at hcore
    exact ⟨a, b, c, hcore, ha, hb, hc⟩

theorem read_iff {text : String} : read text = some v ↔ v.StandsIn text := by
  rw [read_iff_trim]
  constructor
  · intro h
    obtain ⟨before, after, htext, hbefore, hafter⟩ := Text.exists_trim text.toList
    exact ⟨before, _, after, htext, hbefore, hafter, h⟩
  · rintro ⟨before, core, after, htext, hbefore, hafter, h⟩
    rwa [htext, Text.trim_append hbefore hafter h.ne_nil h.not_blank]

theorem toList_text (v : Version) : v.text.toList =
    v.major.repr.toList ++ '.' :: (v.minor.repr.toList ++ '.' :: v.patch.repr.toList) := by
  simp [text, String.toList_append]
  rfl

theorem spelling_text (h : v.Fits) : v.Spelling v.text.toList :=
  ⟨_, _, _, v.toList_text, ⟨writesNatural_repr _, h.major⟩, ⟨writesNatural_repr _, h.minor⟩,
    ⟨writesNatural_repr _, h.patch⟩⟩

/-- The text of a version is read back, if it is one that is read at all. -/
theorem read_text_iff : read v.text = some v ↔ v.Fits := by
  constructor
  · intro h
    exact (read_iff_trim.mp h).fits
  · intro h
    refine read_iff.mpr ⟨[], v.text.toList, [], ?_, List.forall_mem_nil _, List.forall_mem_nil _,
      spelling_text h⟩
    rw [List.nil_append, List.append_nil]

/-- The oldest version has zeros behind its major number, so these decide nothing. -/
theorem isGE_oldest_iff : (compare v oldest).isGE = true ↔ 2 ≤ v.major := by
  have hcompare : compare v oldest = (compare v.major 2).then
      ((compare v.minor 0).then ((compare v.patch 0).then .eq)) := rfl
  have hthen : ∀ {o o' : Ordering}, o.isGE → o'.isGE → (o.then o').isGE := by decide
  rw [hcompare]
  constructor
  · intro h
    exact Nat.isGE_compare.mp (Ordering.isGE_left_of_isGE_then h)
  · intro h
    have hminor : (compare v.minor 0).isGE := Nat.isGE_compare.mpr (Nat.zero_le _)
    have hpatch : (compare v.patch 0).isGE := Nat.isGE_compare.mpr (Nat.zero_le _)
    exact hthen (Nat.isGE_compare.mpr h) (hthen hminor (hthen hpatch rfl))

theorem isSupported_iff : v.isSupported = true ↔ 2 ≤ v.major ∧ v.major ≤ 3 := by
  rw [isSupported, Bool.and_eq_true, isGE_oldest_iff, decide_eq_true_eq]
  rfl

end Version

/-! ## The version of a description -/

open Markup

section

variable {root : Element} (htag : root.tag = "scene")

include htag

theorem readVersion_of_absent (habsent : root.attribute? "version" = none) :
    readVersion root = .error (.malformed root.location .noVersion) := by
  rw [readVersion, if_neg (not_not.mpr htag), habsent]

variable {raw : String} (hraw : root.attribute? "version" = some raw)

include hraw

theorem readVersion_of_unread (h : ∀ v : Version, ¬ v.StandsIn raw) :
    readVersion root = .error (.malformed root.location (.badVersion raw)) := by
  have hnone : Version.read raw = none :=
    Option.eq_none_iff_forall_ne_some.mpr fun v hv => h v (Version.read_iff.mp hv)
  rw [readVersion, if_neg (not_not.mpr htag), hraw]
  simp only [hnone]

/-- A version in the attribute is all that counts. -/
theorem readVersion_of_standsIn {v : Version} (h : v.StandsIn raw) : readVersion root =
    if v.isSupported then .ok v else .error (.unsupportedVersion root.location raw) := by
  rw [readVersion, if_neg (not_not.mpr htag), hraw]
  simp only [Version.read_iff.mpr h]

end

theorem readVersion_ok_iff {root : Element} {v : Version} (htag : root.tag = "scene") :
    readVersion root = .ok v ↔ ∃ raw, root.attribute? "version" = some raw ∧ v.StandsIn raw ∧
      2 ≤ v.major ∧ v.major ≤ 3 := by
  constructor
  · intro h
    cases hraw : root.attribute? "version" with
    | none =>
      rw [readVersion_of_absent htag hraw] at h
      cases h
    | some raw =>
      by_cases hread : ∃ u : Version, u.StandsIn raw
      · obtain ⟨u, hu⟩ := hread
        rw [readVersion_of_standsIn htag hraw hu] at h
        split at h
        · next hsupported =>
          obtain rfl := Except.ok.inj h
          exact ⟨raw, rfl, hu, Version.isSupported_iff.mp hsupported⟩
        · cases h
      · rw [readVersion_of_unread htag hraw (not_exists.mp hread)] at h
        cases h
  · rintro ⟨raw, hraw, hv, hmajor⟩
    rw [readVersion_of_standsIn htag hraw hv, if_pos (Version.isSupported_iff.mpr hmajor)]

/-- **Which versions are let in.**  A text is read as a version exactly if it is, apart from blanks
around it, three numbers of 32 bits with two dots between them, each with an optional plus sign and
any number of leading zeros; so every version is read back from its own text.  The root of a
description has a version exactly if its attribute has one, with the major number 2 or 3.  An
attribute that is absent or has none is malformed, and any other version is refused by the text in
which it stands. -/
theorem readVersion_gates :
    (∀ (text : String) (v : Version), Version.read text = some v ↔ v.StandsIn text) ∧
    (∀ v : Version, Version.read v.text = some v ↔ v.Fits) ∧
    ∀ root : Element, root.tag = "scene" →
      (∀ v, readVersion root = .ok v ↔ ∃ raw, root.attribute? "version" = some raw ∧
        v.StandsIn raw ∧ 2 ≤ v.major ∧ v.major ≤ 3) ∧
      (root.attribute? "version" = none →
        readVersion root = .error (.malformed root.location .noVersion)) ∧
      ∀ raw, root.attribute? "version" = some raw →
        ((∀ v : Version, ¬ v.StandsIn raw) →
          readVersion root = .error (.malformed root.location (.badVersion raw))) ∧
        ∀ v : Version, v.StandsIn raw → ¬ (2 ≤ v.major ∧ v.major ≤ 3) →
          readVersion root = .error (.unsupportedVersion root.location raw) := by
  refine ⟨fun text v => Version.read_iff, fun v => Version.read_text_iff, fun root htag =>
    ⟨fun v => readVersion_ok_iff htag, readVersion_of_absent htag, fun raw hraw =>
      ⟨readVersion_of_unread htag hraw, fun v hv hmajor => ?_⟩⟩⟩
  rw [readVersion_of_standsIn htag hraw hv, if_neg (mt Version.isSupported_iff.mp hmajor)]

/-- The greatest numbers with signs and zeros in front, a number beyond them, a version that is too
new, and none. -/
theorem readVersion_gates_roots :
    readVersion ⟨"scene", [("version", "\u3000+003.7.+4294967295\n")], [], ⟨1, 1⟩⟩ =
      .ok ⟨3, 7, 4294967295⟩ ∧
    readVersion ⟨"scene", [("version", "2.1.4294967296")], [], ⟨1, 1⟩⟩ =
      .error (.malformed ⟨1, 1⟩ (.badVersion "2.1.4294967296")) ∧
    readVersion ⟨"scene", [("version", " 4.0.0")], [], ⟨1, 1⟩⟩ =
      .error (.unsupportedVersion ⟨1, 1⟩ " 4.0.0") ∧
    readVersion ⟨"scene", [], [], ⟨1, 1⟩⟩ = .error (.malformed ⟨1, 1⟩ .noVersion) := by
  obtain ⟨hread, -, hroot⟩ := readVersion_gates
  refine ⟨?_, ?_, ?_, ?_⟩
  · refine ((hroot _ rfl).1 _).mpr ⟨_, rfl, (hread _ _).mp ?_, by decide⟩
    decide +kernel
  · refine ((hroot _ rfl).2.2 _ rfl).1 fun v hv => ?_
    cases ((hread _ v).mpr hv).symm.trans (by decide +kernel : _ = none)
  · refine ((hroot _ rfl).2.2 _ rfl).2 ⟨4, 0, 0⟩ ((hread _ _).mp ?_) (by decide)
    decide +kernel
  · exact (hroot _ rfl).2.1 rfl

end SceneGraph
