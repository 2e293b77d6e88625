import Mathlib.Data.List.Induction
import Mathlib.Data.List.TakeWhile
import Mathlib.Data.Nat.Digits.Defs
import SceneGraph.Literal

/-!
# What the readers of numbers accept

The readers cut a text at its sign, its digits, its point and its exponent.  Beside them stands the
grammar of numbers, in which a text is put together from these parts:

    readInteger cs = some n                    ↔ cs writes the whole number n   (readInteger_iff)
    Numeral.read cs is a decimal numeral       ↔ cs is one by the grammar       (read_decimal_iff)
    Numeral.read cs is infinite or no number   ↔ cs is one of the words         (read_word_iff)

A text is one or more digits behind its sign exactly if it writes a whole number
(`isNumeral_withoutSign_iff`), and decimal numerals are told from the words by their characters
(`looksNumeric_of_isDecimal`, `not_looksNumeric_of_isWord`).
-/

namespace SceneGraph.Decimal

/-! ## The grammar of numbers -/

/-- ASCII digits only. -/
def Digits (cs : List Char) : Prop := ∀ c ∈ cs, c.isDigit = true

/-- The number with these digits, the last of which counts ones. -/
def placeValue (cs : List Char) : Nat := Nat.ofDigits 10 (cs.reverse.map digitValue)

/-- What may stand in front of a number. -/
inductive Sign where
  | none
  | plus
  | minus

namespace Sign

def spell : Sign → List Char
  | none => []
  | plus => ['+']
  | minus => ['-']

def apply : Sign → Nat → Int
  | minus, n => -n
  | _, n => n

end Sign

/-- An optional sign, and a text behind it that is fit for it. -/
def Signed (P : Sign → List Char → Prop) (cs : List Char) : Prop :=
  ∃ s ds, cs = Sign.spell s ++ ds ∧ P s ds

/-- An optional sign and one or more digits, with the value `n`. -/
def WritesInteger (n : Int) : List Char → Prop :=
  Signed fun s ds => ds ≠ [] ∧ Digits ds ∧ n = s.apply (placeValue ds)

/-- Digits with an optional point, and a digit on at least one side of it. -/
inductive Significand : List Char → Prop
  | whole {ds : List Char} : ds ≠ [] → Digits ds → Significand ds
  | pointed {ds fs : List Char} : Digits ds → Digits fs → ds ++ fs ≠ [] →
      Significand (ds ++ '.' :: fs)

/-- Nothing, or the letter `e` and a whole number. -/
inductive ExponentPart : List Char → Prop
  | absent : ExponentPart []
  | present {e : Char} {cs : List Char} (n : Int) : e = 'e' ∨ e = 'E' → WritesInteger n cs →
      ExponentPart (e :: cs)

def IsUnsignedDecimal (cs : List Char) : Prop :=
  ∃ significand exponent, cs = significand ++ exponent ∧ Significand significand ∧
    ExponentPart exponent

/-- A decimal numeral: an optional sign, digits with an optional point, and an optional exponent. -/
def IsDecimal : List Char → Prop := Signed fun _ => IsUnsignedDecimal

def IsUnsignedWord (cs : List Char) : Prop :=
  cs.map Char.toLower ∈ ["inf".toList, "infinity".toList, "nan".toList]

/-- One of the words for values that are no decimal number, in any case, with an optional sign. -/
def IsWord : List Char → Prop := Signed fun _ => IsUnsignedWord

/-! ## Digits -/

theorem isNumeral_iff {cs : List Char} : isNumeral cs = true ↔ cs ≠ [] ∧ Digits cs := by
  simp [isNumeral, Digits]

theorem placeValue_concat (cs : List Char) (c : Char) :
    placeValue (cs ++ [c]) = 10 * placeValue cs + digitValue c := by
  rw [placeValue, List.reverse_concat, List.map_cons, Nat.ofDigits_cons, Nat.add_comm]
  rfl

/-- Read from the left, digits have the values of their places. -/
theorem naturalFrom_zero (cs : List Char) : naturalFrom 0 cs = placeValue cs := by
  induction cs using List.reverseRecOn with
  | nil => rfl
  | append_singleton cs c ih =>
    rw [placeValue_concat, ← ih, naturalFrom, List.foldl_append]
    rfl

theorem readNatural_iff {cs : List Char} {n : Nat} :
    readNatural cs = some n ↔ cs ≠ [] ∧ Digits cs ∧ n = placeValue cs := by
  rw [readNatural, naturalFrom_zero]
  split
  · next h =>
    obtain ⟨hne, hdigits⟩ := isNumeral_iff.mp h
    simp [hne, hdigits, eq_comm]
  · next h =>
    refine iff_of_false (by simp) ?_
    rintro ⟨hne, hdigits, -⟩
    exact h (isNumeral_iff.mpr ⟨hne, hdigits⟩)

theorem map_readNatural_iff {cs : List Char} {f : Nat → Int} {n : Int} :
    (readNatural cs).map f = some n ↔ cs ≠ [] ∧ Digits cs ∧ n = f (placeValue cs) := by
  rw [Option.map_eq_some_iff]
  constructor
  · rintro ⟨m, hm, rfl⟩
    obtain ⟨hne, hdigits, rfl⟩ := readNatural_iff.mp hm
    exact ⟨hne, hdigits, rfl⟩
  · rintro ⟨hne, hdigits, rfl⟩
    exact ⟨_, readNatural_iff.mpr ⟨hne, hdigits, rfl⟩, rfl⟩

/-- A run of characters of a class ends where none of the class follows. -/
theorem span_append {p : Char → Bool} {as r : List Char} (has : ∀ c ∈ as, p c = true)
    (hr : ∀ c ∈ r.head?, p c = false) :
    (as ++ r).takeWhile p = as ∧ (as ++ r).dropWhile p = r := by
  rw [List.takeWhile_append_of_pos has, List.dropWhile_append_of_pos has]
  cases r with
  | nil => simp
  | cons c r => simp [hr c rfl]

/-! ## Signs -/

/-- The text does not start with a sign. -/
def Unsigned (cs : List Char) : Prop := ∀ c ∈ cs.head?, c ≠ '+' ∧ c ≠ '-'

/-- A text starts with one of the two signs, or with none. -/
theorem sign_cases (cs : List Char) :
    (∃ ds, cs = '+' :: ds) ∨ (∃ ds, cs = '-' :: ds) ∨ Unsigned cs := by
  cases cs with
  | nil => exact .inr (.inr (by simp [Unsigned]))
  | cons c cs =>
    by_cases hplus : c = '+'
    · exact .inl ⟨cs, by rw [hplus]⟩
    · by_cases hminus : c = '-'
      · exact .inr (.inl ⟨cs, by rw [hminus]⟩)
      · exact .inr (.inr (by simp [Unsigned, hplus, hminus]))

section

variable {cs : List Char} (h : Unsigned cs)

include h

theorem withoutSign_of_unsigned : withoutSign cs = cs := by
  cases cs with
  | nil => rfl
  | cons c cs => simp [withoutSign, h c rfl]

theorem readInteger_of_unsigned : readInteger cs = (readNatural cs).map Int.ofNat := by
  cases cs with
  | nil => rfl
  | cons c cs => simp [readInteger, h c rfl]

theorem read_of_unsigned : Numeral.read cs = Numeral.readUnsigned false cs := by
  cases cs with
  | nil => rfl
  | cons c cs => simp [Numeral.read, h c rfl]

theorem signed_unsigned {P : Sign → List Char → Prop} : Signed P cs ↔ P .none cs := by
  constructor
  · rintro ⟨s, ds, rfl, hds⟩
    cases s with
    | none => exact hds
    | plus => exact absurd rfl (h '+' rfl).1
    | minus => exact absurd rfl (h '-' rfl).2
  · exact fun hcs => ⟨.none, cs, rfl, hcs⟩

end

section

variable {P : Sign → List Char → Prop} (hP : ∀ s ds, P s ds → Unsigned ds) {ds : List Char}

include hP

theorem signed_plus : Signed P ('+' :: ds) ↔ P .plus ds := by
  constructor
  · rintro ⟨s, es, heq, hes⟩
    cases s with
    | none => exact absurd rfl (hP _ es hes '+' (by simp [← show _ = es from heq])).1
    | plus => rwa [(List.cons.inj heq).2]
    | minus => exact absurd (List.cons.inj heq).1 (by decide)
  · exact fun hds => ⟨.plus, ds, rfl, hds⟩

theorem signed_minus : Signed P ('-' :: ds) ↔ P .minus ds := by
  constructor
  · rintro ⟨s, es, heq, hes⟩
    cases s with
    | none => exact absurd rfl (hP _ es hes '-' (by simp [← show _ = es from heq])).2
    | plus => exact absurd (List.cons.inj heq).1 (by decide)
    | minus => rwa [(List.cons.inj heq).2]
  · exact fun hds => ⟨.minus, ds, rfl, hds⟩

end

/-- Where the sign does not matter, it is cut off. -/
theorem signed_iff {P : List Char → Prop} (hP : ∀ ds, P ds → Unsigned ds) {cs : List Char} :
    Signed (fun _ => P) cs ↔ P (withoutSign cs) := by
  rcases sign_cases cs with ⟨ds, rfl⟩ | ⟨ds, rfl⟩ | hcs
  · exact signed_plus fun _ => hP
  · exact signed_minus fun _ => hP
  · rw [withoutSign_of_unsigned hcs]
    exact signed_unsigned hcs

theorem unsigned_of_isDigit {c : Char} {cs : List Char} (h : c.isDigit = true) :
    Unsigned (c :: cs) := by
  intro d hd
  obtain rfl := Option.some.inj hd
  constructor
  · rintro rfl
    exact absurd h (by decide)
  · rintro rfl
    exact absurd h (by decide)

theorem Digits.unsigned {cs : List Char} (h : Digits cs) : Unsigned cs := by
  cases cs with
  | nil => simp [Unsigned]
  | cons c cs => exact unsigned_of_isDigit (h c List.mem_cons_self)

/-! ## Whole numbers -/

theorem readInteger_iff {cs : List Char} {n : Int} :
    readInteger cs = some n ↔ WritesInteger n cs := by
  have hunsigned : ∀ (s : Sign) (ds : List Char),
      ds ≠ [] ∧ Digits ds ∧ n = s.apply (placeValue ds) → Unsigned ds :=
    fun _ _ h => h.2.1.unsigned
  rcases sign_cases cs with ⟨ds, rfl⟩ | ⟨ds, rfl⟩ | hcs
  · rw [WritesInteger, signed_plus hunsigned]
    exact map_readNatural_iff
  · rw [WritesInteger, signed_minus hunsigned]
    exact map_readNatural_iff
  · rw [WritesInteger, signed_unsigned hcs, readInteger_of_unsigned hcs]
    exact map_readNatural_iff

/-- The test for digits behind a sign agrees with the reader. -/
theorem isNumeral_withoutSign_iff {cs : List Char} :
    isNumeral (withoutSign cs) = true ↔ ∃ n, WritesInteger n cs := by
  rw [isNumeral_iff, ← signed_iff (P := fun ds => ds ≠ [] ∧ Digits ds) fun _ h => h.2.unsigned]
  constructor
  · rintro ⟨s, ds, heq, hne, hdigits⟩
    exact ⟨_, s, ds, heq, hne, hdigits, rfl⟩
  · rintro ⟨n, s, ds, heq, hne, hdigits, -⟩
    exact ⟨s, ds, heq, hne, hdigits⟩

/-- A text writes one number. -/
theorem WritesInteger.unique {cs : List Char} {m n : Int} (hm : WritesInteger m cs)
    (hn : WritesInteger n cs) : m = n :=
  Option.some.inj ((readInteger_iff.mpr hm).symm.trans (readInteger_iff.mpr hn))

theorem digits_toDigits (n : Nat) : Digits (Nat.toDigits 10 n) :=
  fun _ hc => Nat.isDigit_of_mem_toDigits (by decide) (by decide) hc

theorem placeValue_toDigits (n : Nat) : placeValue (Nat.toDigits 10 n) = n := by
  rw [← naturalFrom_zero]
  exact Nat.ofDigitChars_toDigits (by decide) (by decide)

/-- A number is what its decimal text writes. -/
theorem writesInteger_toString (n : Int) : WritesInteger n (toString n).toList := by
  cases n with
  | ofNat m =>
    refine ⟨.none, Nat.toDigits 10 m, Nat.toList_repr, Nat.toDigits_ne_nil, digits_toDigits m, ?_⟩
    rw [placeValue_toDigits]
    rfl
  | negSucc m =>
    refine ⟨.minus, Nat.toDigits 10 (m + 1), ?_, Nat.toDigits_ne_nil, digits_toDigits (m + 1), ?_⟩
    · show ("-" ++ Nat.repr (m + 1)).toList = _
      rw [String.toList_append, Nat.toList_repr]
      rfl
    · rw [placeValue_toDigits]
      rfl

/-! ## Decimal numerals -/

namespace Numeral

theorem readExponent_isSome_iff {cs : List Char} :
    (readExponent cs).isSome = true ↔ ExponentPart cs := by
  cases cs with
  | nil => exact iff_of_true rfl .absent
  | cons e cs =>
    rw [readExponent]
    split
    · next he =>
      rw [Option.isSome_iff_exists]
      simp only [readInteger_iff]
      constructor
      · rintro ⟨n, hn⟩
        exact .present n he hn
      · rintro (_ | ⟨n, -, hn⟩)
        exact ⟨n, hn⟩
    · next he =>
      refine iff_of_false (by simp) ?_
      rintro (_ | ⟨n, he', -⟩)
      exact he he'

/-- What a significand is followed by starts with neither a digit nor a point. -/
theorem head_exponentPart {cs : List Char} (h : ExponentPart cs) :
    ∀ c ∈ cs.head?, c.isDigit = false ∧ c ≠ '.' := by
  cases h with
  | absent => simp
  | present n he =>
    rcases he with rfl | rfl
    · simp
    · simp

section

variable (negative : Bool) {ds fs r : List Char} (hds : Digits ds)

include hds

/-- The reader at digits with no point behind them. -/
theorem readUnsignedDecimal_whole (hr : ∀ c ∈ r.head?, c.isDigit = false ∧ c ≠ '.') :
    readUnsignedDecimal negative (ds ++ r) =
      if ds = [] then none
      else (readExponent r).map fun e => decimal negative (naturalFrom 0 ds) e := by
  obtain ⟨htake, hdrop⟩ := span_append hds fun c hc => (hr c hc).1
  rw [readUnsignedDecimal, htake, hdrop]
  cases r with
  | nil => simp
  | cons c r =>
    obtain ⟨-, hpoint⟩ := hr c rfl
    simp [hpoint]

/-- The reader at digits with a point and digits behind them. -/
theorem readUnsignedDecimal_pointed (hfs : Digits fs) (hr : ∀ c ∈ r.head?, c.isDigit = false) :
    readUnsignedDecimal negative (ds ++ '.' :: (fs ++ r)) =
      if ds ++ fs = [] then none
      else (readExponent r).map fun e =>
        decimal negative (naturalFrom 0 (ds ++ fs)) (e - fs.length) := by
  obtain ⟨htake, hdrop⟩ := span_append (r := '.' :: (fs ++ r)) hds (by simp)
  obtain ⟨htake', hdrop'⟩ := span_append hfs hr
  rw [readUnsignedDecimal, htake, hdrop]
  simp [htake', hdrop']

end

/-- A text is cut into digits, and what starts with no digit. -/
theorem exists_span (cs : List Char) : ∃ ds r, cs = ds ++ r ∧ Digits ds ∧
    ∀ c ∈ r.head?, c.isDigit = false := by
  refine ⟨cs.takeWhile Char.isDigit, cs.dropWhile Char.isDigit,
    List.takeWhile_append_dropWhile.symm, fun _ hc => List.mem_takeWhile_imp hc, ?_⟩
  intro c hc
  have hhead := List.head?_dropWhile_not Char.isDigit cs
  rwa [Option.mem_def.mp hc] at hhead

theorem readUnsignedDecimal_isSome_iff (negative : Bool) {cs : List Char} :
    (readUnsignedDecimal negative cs).isSome = true ↔ IsUnsignedDecimal cs := by
  constructor
  · intro h
    obtain ⟨ds, r, rfl, hds, hr⟩ := exists_span cs
    by_cases hpoint : '.' ∈ r.head?
    · obtain ⟨r, rfl⟩ := List.head?_eq_some_iff.mp hpoint
      obtain ⟨fs, r, rfl, hfs, hr⟩ := exists_span r
      rw [readUnsignedDecimal_pointed negative hds hfs hr] at h
      split at h
      · cases h
      · next hne =>
        rw [Option.isSome_map] at h
        exact ⟨ds ++ '.' :: fs, r, by simp, .pointed hds hfs hne, readExponent_isSome_iff.mp h⟩
    · have hrest : ∀ c ∈ r.head?, c.isDigit = false ∧ c ≠ '.' :=
        fun c hc => ⟨hr c hc, fun heq => hpoint (heq ▸ hc)⟩
      rw [readUnsignedDecimal_whole negative hds hrest] at h
      split at h
      · cases h
      · next hne =>
        rw [Option.isSome_map] at h
        exact ⟨ds, r, rfl, .whole hne hds, readExponent_isSome_iff.mp h⟩
  · rintro ⟨_, exponent, rfl, hs, he⟩
    have hhead := head_exponentPart he
    have hexponent := readExponent_isSome_iff.mpr he
    cases hs with
    | whole hne hds =>
      rw [readUnsignedDecimal_whole negative hds hhead, if_neg hne, Option.isSome_map]
      exact hexponent
    | pointed hds hfs hne =>
      rw [List.append_assoc, List.cons_append,
        readUnsignedDecimal_pointed negative hds hfs fun c hc => (hhead c hc).1, if_neg hne,
        Option.isSome_map]
      exact hexponent

theorem unsigned_of_isUnsignedDecimal (cs : List Char) (h : IsUnsignedDecimal cs) :
    Unsigned cs := by
  obtain ⟨significand, exponent, rfl, hs, he⟩ := h
  cases hs with
  | whole hne hds =>
    cases significand with
    | nil => exact absurd rfl hne
    | cons d ds => exact unsigned_of_isDigit (hds d List.mem_cons_self)
  | @pointed ds fs hds hfs hne =>
    cases ds with
    | nil => simp [Unsigned]
    | cons d ds => exact unsigned_of_isDigit (hds d List.mem_cons_self)

/-! ## Words -/

theorem unsigned_of_isUnsignedWord (cs : List Char) (h : IsUnsignedWord cs) : Unsigned cs := by
  cases cs with
  | nil => simp [Unsigned]
  | cons c cs =>
    intro d hd
    obtain rfl := Option.some.inj hd
    constructor
    · rintro rfl
      simp [IsUnsignedWord] at h
    · rintro rfl
      simp [IsUnsignedWord] at h

theorem readWord_isSome_iff (negative : Bool) {cs : List Char} :
    (readWord negative cs).isSome = true ↔ IsUnsignedWord cs := by
  have hwords : IsUnsignedWord cs ↔
      (cs.map Char.toLower = ['i', 'n', 'f'] ∨
        cs.map Char.toLower = ['i', 'n', 'f', 'i', 'n', 'i', 't', 'y']) ∨
      cs.map Char.toLower = ['n', 'a', 'n'] := by
    simp [IsUnsignedWord, or_assoc]
  rw [readWord, hwords]
  split
  · next h => exact iff_of_true rfl (.inl h)
  · next h =>
    split
    · next h' => exact iff_of_true rfl (.inr h')
    · next h' => exact iff_of_false Bool.false_ne_true fun hword => hword.elim h h'

end Numeral

/-! ## Characters -/

open Literal (looksNumeric)

theorem looksNumeric_append {as bs : List Char} :
    looksNumeric (as ++ bs) = true ↔ looksNumeric as = true ∧ looksNumeric bs = true := by
  rw [looksNumeric, List.all_append, Bool.and_eq_true]
  rfl

theorem looksNumeric_cons {c : Char} {cs : List Char} :
    looksNumeric (c :: cs) = true ↔ looksNumeric [c] = true ∧ looksNumeric cs = true :=
  @looksNumeric_append [c] cs

theorem Digits.looksNumeric {cs : List Char} (h : Digits cs) : looksNumeric cs = true :=
  List.all_eq_true.mpr fun c hc => by rw [h c hc, Bool.true_or]

theorem looksNumeric_of_signed {P : Sign → List Char → Prop} {cs : List Char}
    (h : Signed P cs) (hP : ∀ s ds, P s ds → looksNumeric ds = true) : looksNumeric cs = true := by
  obtain ⟨s, ds, rfl, hds⟩ := h
  refine looksNumeric_append.mpr ⟨?_, hP s ds hds⟩
  cases s <;> rfl

theorem looksNumeric_of_isDecimal {cs : List Char} (h : IsDecimal cs) : looksNumeric cs = true := by
  refine looksNumeric_of_signed h fun _ ds => ?_
  rintro ⟨significand, exponent, rfl, hs, he⟩
  refine looksNumeric_append.mpr ⟨?_, ?_⟩
  · cases hs with
    | whole hne hds => exact hds.looksNumeric
    | pointed hds hfs hne =>
      exact looksNumeric_append.mpr ⟨hds.looksNumeric,
        looksNumeric_cons.mpr ⟨rfl, hfs.looksNumeric⟩⟩
  · cases he with
    | absent => rfl
    | @present e cs n he hn =>
      have hcs := looksNumeric_of_signed hn fun _ _ h => h.2.1.looksNumeric
      refine looksNumeric_cons.mpr ⟨?_, hcs⟩
      rcases he with rfl | rfl <;> rfl

theorem toLower_ne_of_isDigit {c : Char} (h : c.isDigit = true) : c.toLower ≠ 'n' := by
  obtain ⟨-, hnine⟩ : '0'.val ≤ c.val ∧ c.val ≤ '9'.val := by simpa [Char.isDigit] using h
  have hlower : c.toLower = c := by
    refine dif_neg fun hupper => ?_
    exact absurd (UInt32.le_trans hupper.1 hnine) (by decide)
  rw [hlower]
  rintro rfl
  exact absurd h (by decide)

/-- Every word has the letter n, which stands in no decimal numeral. -/
theorem not_looksNumeric_of_isWord {cs : List Char} (h : IsWord cs) : looksNumeric cs = false := by
  obtain ⟨s, ds, rfl, hds⟩ := h
  have hletter : 'n' ∈ ds.map Char.toLower := by
    simp only [IsUnsignedWord, List.mem_cons, List.not_mem_nil, or_false] at hds
    rcases hds with hds | hds | hds
    all_goals
      rw [hds]
      decide
  obtain ⟨c, hc, hlower⟩ := List.mem_map.mp hletter
  rw [Bool.eq_false_iff]
  intro hlooks
  rcases Bool.or_eq_true_iff.mp (List.all_eq_true.mp (looksNumeric_append.mp hlooks).2 c hc)
    with hdigit | hmark
  · exact toLower_ne_of_isDigit hdigit hlower
  · simp only [List.contains_iff_mem, List.mem_cons, List.not_mem_nil, or_false] at hmark
    rcases hmark with rfl | rfl | rfl | rfl | rfl
    all_goals exact absurd hlower (by decide)

/-! ## Numerals -/

namespace Numeral

def isDecimal : Numeral → Bool
  | decimal .. => true
  | _ => false

theorem isDecimal_of_readUnsignedDecimal {negative : Bool} {cs : List Char} {n : Numeral}
    (h : readUnsignedDecimal negative cs = some n) : n.isDecimal = true := by
  unfold readUnsignedDecimal at h
  dsimp only at h
  split at h
  all_goals
    split at h
    · cases h
    · obtain ⟨e, -, rfl⟩ := Option.map_eq_some_iff.mp h
      rfl

theorem isDecimal_of_readWord {negative : Bool} {cs : List Char} {n : Numeral}
    (h : readWord negative cs = some n) : n.isDecimal = false := by
  unfold readWord at h
  dsimp only at h
  split at h
  · obtain rfl := Option.some.inj h
    rfl
  · split at h
    · obtain rfl := Option.some.inj h
      rfl
    · cases h

/-- The sign of a text aside, its numeral is read in one of two ways. -/
theorem exists_read_eq (cs : List Char) : ∃ negative,
    read cs = (readUnsignedDecimal negative (withoutSign cs) <|>
      readWord negative (withoutSign cs)) := by
  rcases sign_cases cs with ⟨ds, rfl⟩ | ⟨ds, rfl⟩ | hcs
  · exact ⟨false, rfl⟩
  · exact ⟨true, rfl⟩
  · exact ⟨false, by rw [read_of_unsigned hcs, withoutSign_of_unsigned hcs]; rfl⟩

theorem read_decimal_iff {cs : List Char} :
    (∃ n, read cs = some n ∧ n.isDecimal = true) ↔ IsDecimal cs := by
  obtain ⟨negative, hread⟩ := exists_read_eq cs
  rw [IsDecimal, signed_iff unsigned_of_isUnsignedDecimal,
    ← readUnsignedDecimal_isSome_iff negative, hread]
  cases hdecimal : readUnsignedDecimal negative (withoutSign cs) with
  | some n => exact iff_of_true ⟨n, rfl, isDecimal_of_readUnsignedDecimal hdecimal⟩ rfl
  | none =>
    refine iff_of_false ?_ Bool.false_ne_true
    rintro ⟨n, hn, hkind⟩
    rw [isDecimal_of_readWord hn] at hkind
    cases hkind

theorem read_word_iff {cs : List Char} :
    (∃ n, read cs = some n ∧ n.isDecimal = false) ↔ IsWord cs := by
  obtain ⟨negative, hread⟩ := exists_read_eq cs
  constructor
  · rintro ⟨n, hn, hkind⟩
    rw [hread] at hn
    cases hdecimal : readUnsignedDecimal negative (withoutSign cs) with
    | some m =>
      rw [hdecimal] at hn
      obtain rfl := Option.some.inj hn
      rw [isDecimal_of_readUnsignedDecimal hdecimal] at hkind
      cases hkind
    | none =>
      rw [hdecimal] at hn
      rw [IsWord, signed_iff unsigned_of_isUnsignedWord, ← readWord_isSome_iff negative]
      exact Option.isSome_of_eq_some hn
  · intro h
    have hnone : readUnsignedDecimal negative (withoutSign cs) = none := by
      rw [← Option.not_isSome_iff_eq_none, readUnsignedDecimal_isSome_iff,
        ← signed_iff unsigned_of_isUnsignedDecimal]
      intro hdecimal
      have hlooks := looksNumeric_of_isDecimal hdecimal
      rw [not_looksNumeric_of_isWord h] at hlooks
      cases hlooks
    rw [IsWord, signed_iff unsigned_of_isUnsignedWord, ← readWord_isSome_iff negative] at h
    obtain ⟨n, hn⟩ := Option.isSome_iff_exists.mp h
    refine ⟨n, ?_, isDecimal_of_readWord hn⟩
    rw [hread, hnone]
    exact hn

end Numeral

end SceneGraph.Decimal
