import SceneGraph.Proofs.Numerals
import SceneGraph.Proofs.Origins
import SceneGraph.Proofs.Scanning

/-!
# Which texts are numbers

A text that is read as a number gets one of three verdicts: it is a number, it is one that the
format cannot hold, or it is none at all.  Between the last two the readers decide by how the text
looks, and by the grammar of numbers its looks do not deceive:

    whole number within 64 bits      value       (readInteger_of_fits)
    whole number beyond              malformed   (readInteger_of_not_fits)
    any other text                   mismatch    (readInteger_of_no_integer)

    decimal numeral, finite          value       (readFloat_of_isDecimal)
    decimal numeral, too large       malformed   (readFloat_of_isDecimal)
    any other text                   mismatch    (readFloat_of_not_isDecimal)

A list of three numbers gets the verdict of its first word that is no number
(`readTriple_of_refused`), and only a list without such a word is counted
(`readTriple_of_accepted`).
-/

namespace SceneGraph

open SceneGraph.Geometry Decimal

/-! ## Blanks around a text -/

namespace Text

theorem not_blank_of_isDigit {c : Char} (h : c.isDigit = true) : isBlank c = false := by
  have hranges : ∀ r ∈ blankRanges, r.2 < '0'.toNat ∨ '9'.toNat < r.1 := by decide
  obtain ⟨hzero, hnine⟩ : '0'.val ≤ c.val ∧ c.val ≤ '9'.val := by simpa [Char.isDigit] using h
  rw [Bool.eq_false_iff]
  intro hblank
  obtain ⟨r, hr, hlow, hhigh⟩ := Ranges.exists_of_contains hblank
  have hlower : '0'.toNat ≤ c.toNat := hzero
  have hupper : c.toNat ≤ '9'.toNat := hnine
  have := hranges r hr
  omega

theorem trimLeft_append {before cs : List Char} (hbefore : ∀ c ∈ before, isBlank c = true)
    (hcs : ∀ c ∈ cs.head?, isBlank c = false) : trimLeft (before ++ cs) = cs :=
  (span_append hbefore hcs).2

/-- A text without blanks is what is left of it when blanks stand around it. -/
theorem trim_append {before cs after : List Char} (hbefore : ∀ c ∈ before, isBlank c = true)
    (hafter : ∀ c ∈ after, isBlank c = true) (hne : cs ≠ [])
    (hcs : ∀ c ∈ cs, isBlank c = false) : trim (before ++ cs ++ after) = cs := by
  have hleft : trimLeft (before ++ (cs ++ after)) = cs ++ after := by
    refine trimLeft_append hbefore fun c hc => ?_
    rw [List.head?_append_of_ne_nil _ hne] at hc
    exact hcs c (List.mem_of_mem_head? hc)
  have hright : trimLeft (after.reverse ++ cs.reverse) = cs.reverse := by
    refine trimLeft_append (fun c hc => hafter c (List.mem_reverse.mp hc)) fun c hc => ?_
    exact hcs c (List.mem_reverse.mp (List.mem_of_mem_head? hc))
  calc trim (before ++ cs ++ after)
      = trimRight (cs ++ after) := by rw [trim, List.append_assoc, hleft]
    _ = (trimLeft (after.reverse ++ cs.reverse)).reverse := by
        rw [trimRight, List.reverse_append, trimLeft]
    _ = cs := by rw [hright, List.reverse_reverse]

end Text

namespace Decimal

theorem WritesInteger.ne_nil {n : Int} {cs : List Char} (h : WritesInteger n cs) : cs ≠ [] := by
  obtain ⟨s, ds, rfl, hne, -⟩ := h
  exact List.append_ne_nil_of_right_ne_nil _ hne

theorem WritesInteger.not_blank {n : Int} {cs : List Char} (h : WritesInteger n cs) :
    ∀ c ∈ cs, Text.isBlank c = false := by
  obtain ⟨s, ds, rfl, -, hdigits, -⟩ := h
  intro c hc
  rcases List.mem_append.mp hc with hc | hc
  · cases s with
    | none => cases hc
    | plus =>
      obtain rfl := List.mem_singleton.mp hc
      decide
    | minus =>
      obtain rfl := List.mem_singleton.mp hc
      decide
  · exact Text.not_blank_of_isDigit (hdigits c hc)

end Decimal

namespace Literal

/-! ## Verdicts -/

/-- What the reading of a literal comes to, wording aside. -/
inductive Verdict (α : Type) where
  | value (a : α)
  | malformed
  | mismatch (expected : LiteralKind)
deriving DecidableEq

def verdict {α : Type} : Except Fault α → Verdict α
  | .ok a => .value a
  | .error (.mismatch expected _) => .mismatch expected
  | .error _ => .malformed

/-! ## Whole numbers -/

/-- The whole numbers of 64 bits with a sign. -/
def Fits64 (n : Int) : Prop := -9223372036854775808 ≤ n ∧ n ≤ 9223372036854775807

theorem fitsSigned64_iff {n : Int} : fitsSigned64 n = true ↔ Fits64 n := by
  simp only [fitsSigned64, Bool.and_eq_true, decide_eq_true_eq, Fits64]
  omega

theorem readSigned64_of_writesInteger {cs : List Char} {n : Int} (h : WritesInteger n cs) :
    readSigned64 cs = if fitsSigned64 n then some n else none := by
  rw [readSigned64, readInteger_iff.mpr h]
  rfl

section

variable {cs : List Char} {n : Int}

theorem readInteger_of_fits (h : WritesInteger n (Text.trim cs)) (hn : Fits64 n) :
    readInteger cs = .ok n := by
  unfold readInteger
  simp only [readSigned64_of_writesInteger h, fitsSigned64_iff.mpr hn, if_true]

theorem readInteger_of_not_fits (h : WritesInteger n (Text.trim cs)) (hn : ¬ Fits64 n) :
    readInteger cs = .error (.integerRange (String.ofList (Text.trim cs))) := by
  unfold readInteger
  simp only [readSigned64_of_writesInteger h, mt fitsSigned64_iff.mp hn,
    isNumeral_withoutSign_iff.mpr ⟨n, h⟩, if_true, Bool.false_eq_true, if_false]

theorem readInteger_of_no_integer (h : ∀ n, ¬ WritesInteger n (Text.trim cs)) :
    ∃ found, readInteger cs = .error (.mismatch .integer found) := by
  have hnone : readSigned64 (Text.trim cs) = none := by
    rw [readSigned64, Option.filter_eq_none_iff]
    exact fun n hn => absurd (readInteger_iff.mp hn) (h n)
  have hshape : ¬ isNumeral (withoutSign (Text.trim cs)) = true :=
    fun hnumeral => (isNumeral_withoutSign_iff.mp hnumeral).elim h
  unfold readInteger
  simp only [hnone, if_neg hshape]
  split
  · exact ⟨_, rfl⟩
  · exact ⟨_, rfl⟩

end

/-- The reading of a whole number ends in one of three ways. -/
theorem read_integer_cases (raw : String) :
    (∃ n, WritesInteger n (Text.trim raw.toList) ∧ Fits64 n ∧
      read .integer raw = .ok (.integer n)) ∨
    (∃ n, WritesInteger n (Text.trim raw.toList) ∧ ¬ Fits64 n ∧
      verdict (read .integer raw) = .malformed) ∨
    ((∀ n, ¬ WritesInteger n (Text.trim raw.toList)) ∧
      verdict (read .integer raw) = .mismatch .integer) := by
  by_cases hwrites : ∃ n, WritesInteger n (Text.trim raw.toList)
  · obtain ⟨n, hn⟩ := hwrites
    by_cases hfits : Fits64 n
    · refine .inl ⟨n, hn, hfits, ?_⟩
      rw [read, readInteger_of_fits hn hfits]
      rfl
    · refine .inr (.inl ⟨n, hn, hfits, ?_⟩)
      rw [read, readInteger_of_not_fits hn hfits]
      rfl
  · have hnone := not_exists.mp hwrites
    refine .inr (.inr ⟨hnone, ?_⟩)
    obtain ⟨found, hfound⟩ := readInteger_of_no_integer hnone
    rw [read, hfound]
    rfl

/-- **Texts for whole numbers.**  A text is an integer exactly if, without the blanks around it, it
is an optional sign and digits with a value of 64 bits.  It is malformed exactly if the value is
beyond, and any other text is none.  So an integer is read back from its decimal text, whatever
blanks stand around it. -/
theorem integer_verdict :
    (∀ raw : String,
      (∀ n, read .integer raw = .ok (.integer n) ↔
        WritesInteger n (Text.trim raw.toList) ∧ Fits64 n) ∧
      (verdict (read .integer raw) = .malformed ↔
        ∃ n, WritesInteger n (Text.trim raw.toList) ∧ ¬ Fits64 n) ∧
      (verdict (read .integer raw) = .mismatch .integer ↔
        ∀ n, ¬ WritesInteger n (Text.trim raw.toList))) ∧
    ∀ (n : Int) (before after : List Char), Fits64 n →
      (∀ c ∈ before, Text.isBlank c = true) → (∀ c ∈ after, Text.isBlank c = true) →
      read .integer (String.ofList (before ++ (toString n).toList ++ after)) =
        .ok (.integer n) := by
  constructor
  · intro raw
    rcases read_integer_cases raw with ⟨m, hm, hfits, hread⟩ | ⟨m, hm, hfits, hread⟩ |
      ⟨hnone, hread⟩
    · rw [hread]
      refine ⟨fun n => ⟨fun h => ?_, fun h => ?_⟩, ?_, ?_⟩
      · cases h
        exact ⟨hm, hfits⟩
      · rw [hm.unique h.1]
      · exact iff_of_false nofun fun ⟨n, hn, hbeyond⟩ => hbeyond (hm.unique hn ▸ hfits)
      · exact iff_of_false nofun fun h => h m hm
    · rw [hread]
      refine ⟨fun n => iff_of_false (fun h => ?_) fun ⟨hn, h⟩ => hfits (hm.unique hn ▸ h),
        iff_of_true rfl ⟨m, hm, hfits⟩, iff_of_false nofun fun h => h m hm⟩
      rw [h] at hread
      cases hread
    · rw [hread]
      refine ⟨fun n => iff_of_false (fun h => ?_) fun ⟨hn, _⟩ => hnone n hn,
        iff_of_false nofun fun ⟨n, hn, _⟩ => hnone n hn, iff_of_true rfl hnone⟩
      rw [h] at hread
      cases hread
  · intro n before after hn hbefore hafter
    have hwrites := writesInteger_toString n
    have htrim := Text.trim_append hbefore hafter hwrites.ne_nil hwrites.not_blank
    rw [read, String.toList_ofList, readInteger_of_fits (htrim.symm ▸ hwrites) hn]
    rfl

/-- The least integer behind blanks, and the first one beyond the greatest behind zeros. -/
theorem integer_verdict_ends :
    Fits64 (-9223372036854775808) ∧
    read .integer "\u00a0 -9223372036854775808\n" = .ok (.integer (-9223372036854775808)) ∧
    verdict (read .integer "+009223372036854775808") = .malformed ∧
    verdict (read .integer "1.0") = .mismatch .integer := by
  have hleast : Fits64 (-9223372036854775808) := ⟨by decide, by decide⟩
  refine ⟨hleast, ?_, ?_, ?_⟩
  · have htext : String.ofList
        (['\u00a0', ' '] ++ (toString (-9223372036854775808 : Int)).toList ++ ['\n']) =
        "\u00a0 -9223372036854775808\n" := by
      decide +kernel
    rw [← htext]
    exact integer_verdict.2 _ ['\u00a0', ' '] ['\n'] hleast (List.all_eq_true.mp (by decide))
      (List.all_eq_true.mp (by decide))
  · have hwrites : WritesInteger 9223372036854775808
        (Text.trim "+009223372036854775808".toList) :=
      readInteger_iff.mp (by decide +kernel)
    exact (integer_verdict.1 _).2.1.mpr ⟨_, hwrites, fun h => absurd h.2 (by decide)⟩
  · refine (integer_verdict.1 _).2.2.mpr fun n hn => ?_
    cases (readInteger_iff.mpr hn).symm.trans (by decide +kernel : _ = none)

end Literal

/-! ## Decimal numerals and words -/

namespace Decimal.Binary32

variable {cs : List Char}

theorem read_of_isDecimal (h : IsDecimal cs) : ∃ x, read cs = some x := by
  obtain ⟨n, hn, -⟩ := Numeral.read_decimal_iff.mpr h
  exact ⟨ofNumeral n, by rw [read, hn]; rfl⟩

theorem read_of_isWord (h : IsWord cs) : ∃ x, read cs = some x ∧ x.isFinite = false := by
  obtain ⟨n, hn, hkind⟩ := Numeral.read_word_iff.mpr h
  refine ⟨ofNumeral n, by rw [read, hn]; rfl, ?_⟩
  cases n with
  | decimal => cases hkind
  | infinity negative => cases negative <;> decide +kernel
  | nan => decide +kernel

/-- What is read is a decimal numeral or one of the words. -/
theorem read_isSome_iff : (read cs).isSome = true ↔ IsDecimal cs ∨ IsWord cs := by
  constructor
  · intro h
    rw [read, Option.isSome_map] at h
    obtain ⟨n, hn⟩ := Option.isSome_iff_exists.mp h
    cases hkind : n.isDecimal with
    | true => exact .inl (Numeral.read_decimal_iff.mp ⟨n, hn, hkind⟩)
    | false => exact .inr (Numeral.read_word_iff.mp ⟨n, hn, hkind⟩)
  · rintro (h | h)
    · obtain ⟨x, hx⟩ := read_of_isDecimal h
      rw [hx, Option.isSome_some]
    · obtain ⟨x, hx, -⟩ := read_of_isWord h
      rw [hx, Option.isSome_some]

end Decimal.Binary32

namespace Literal

/-! ## Floats -/

section

variable {cs : List Char}

theorem readFloat_of_isDecimal (h : IsDecimal (Text.trim cs)) :
    ∃ x, Binary32.read (Text.trim cs) = some x ∧ readFloat cs =
      if x.isFinite then .ok x else .error (.floatRange (String.ofList (Text.trim cs))) := by
  obtain ⟨x, hx⟩ := Binary32.read_of_isDecimal h
  refine ⟨x, hx, ?_⟩
  unfold readFloat
  simp only [hx, looksNumeric_of_isDecimal h, if_true]

theorem readFloat_of_not_isDecimal (h : ¬ IsDecimal (Text.trim cs)) :
    readFloat cs = .error (.mismatch .float (describeToken (Text.trim cs))) := by
  unfold readFloat
  -- A word is read, if only to a value that is not finite; its letters keep it from being malformed.
  by_cases hword : IsWord (Text.trim cs)
  · obtain ⟨x, hx, hfinite⟩ := Binary32.read_of_isWord hword
    simp only [hx, hfinite, not_looksNumeric_of_isWord hword, Bool.false_eq_true, if_false]
  · have hnone : Binary32.read (Text.trim cs) = none := by
      rw [← Option.not_isSome_iff_eq_none, Binary32.read_isSome_iff]
      exact fun hread => hread.elim h hword
    simp only [hnone]

end

/-! ## Three numbers -/

section

variable {kind : LiteralKind} {cs : List Char}

theorem readTriple_eq_ok_iff {v : Vec3} : readTriple kind cs = .ok v ↔
    ∃ a b c, Text.words cs = [a, b, c] ∧ readFloat a = .ok v.x ∧ readFloat b = .ok v.y ∧
      readFloat c = .ok v.z := by
  constructor
  · intro h
    unfold readTriple at h
    split at h
    · cases h
    · next x y z hvalues =>
      obtain rfl := Except.ok.inj h
      have hread := readFloats_eq_ok_iff.mp hvalues
      generalize Text.words cs = words at hread
      obtain - | ⟨ha, - | ⟨hb, - | ⟨hc, - | -⟩⟩⟩ := hread
      exact ⟨_, _, _, rfl, ha, hb, hc⟩
    · cases h
  · rintro ⟨a, b, c, hwords, ha, hb, hc⟩
    have hvalues : readFloats cs = .ok [v.x, v.y, v.z] := by
      rw [readFloats_eq_ok_iff, hwords]
      exact .cons ha (.cons hb (.cons hc .nil))
    rw [readTriple, hvalues]

/-- The first word that is no number decides. -/
theorem readFloats_of_refused {before after : List (List Char)} {token : List Char} {fault : Fault}
    (hwords : Text.words cs = before ++ token :: after)
    (hbefore : ∀ word ∈ before, ∃ x, readFloat word = .ok x)
    (htoken : readFloat token = .error fault) : readFloats cs = .error fault := by
  rw [readFloats, hwords]
  clear hwords
  induction before with
  | nil =>
    rw [List.nil_append, List.mapM_cons, htoken]
    rfl
  | cons word before ih =>
    obtain ⟨⟨x, hx⟩, hbefore⟩ := List.forall_mem_cons.mp hbefore
    rw [List.cons_append, List.mapM_cons, hx, ih hbefore]
    rfl

theorem readTriple_of_refused {before after : List (List Char)} {token : List Char} {fault : Fault}
    (hwords : Text.words cs = before ++ token :: after)
    (hbefore : ∀ word ∈ before, ∃ x, readFloat word = .ok x)
    (htoken : readFloat token = .error fault) :
    readTriple kind cs = .error (fault.within kind) := by
  rw [readTriple, readFloats_of_refused hwords hbefore htoken]

theorem readFloats_of_accepted (hwords : ∀ word ∈ Text.words cs, ∃ x, readFloat word = .ok x) :
    ∃ xs, readFloats cs = .ok xs := by
  unfold readFloats
  generalize Text.words cs = words at hwords
  induction words with
  | nil => exact ⟨[], rfl⟩
  | cons word words ih =>
    obtain ⟨⟨x, hx⟩, hwords⟩ := List.forall_mem_cons.mp hwords
    obtain ⟨xs, hxs⟩ := ih hwords
    refine ⟨x :: xs, ?_⟩
    rw [List.mapM_cons, hx, hxs]
    rfl

/-- Only where every word is a number do they count. -/
theorem readTriple_of_accepted (hwords : ∀ word ∈ Text.words cs, ∃ x, readFloat word = .ok x)
    (hcount : (Text.words cs).length ≠ 3) :
    readTriple kind cs = .error (.notThree kind (Text.words cs).length) := by
  obtain ⟨xs, hxs⟩ := readFloats_of_accepted hwords
  rw [(readFloats_eq_ok_iff.mp hxs).length_eq] at hcount ⊢
  rw [readTriple, hxs]
  match xs, hcount with
  | [], _ => rfl
  | [_], _ => rfl
  | [_, _], _ => rfl
  | [_, _, _], h => exact absurd rfl h
  | _ :: _ :: _ :: _ :: _, _ => rfl

end

/-- **Texts for floats, and for three of them.**  What is read at all is a decimal numeral or a word
for a value that is not finite.  A text is a float exactly if, without the blanks around it, it is a
decimal numeral whose nearest single precision number is finite; it is malformed if that number is
infinite, and any other text is none.  A text gives three numbers exactly if three words stand in
it that are floats.  A word that is none decides before the number of words does. -/
theorem float_triple_verdict :
    (∀ token : List Char,
      ((Binary32.read token).isSome = true ↔ IsDecimal token ∨ IsWord token) ∧
      (IsWord token → ∀ x, Binary32.read token = some x → x.isFinite = false)) ∧
    (∀ cs : List Char,
      (∀ x, readFloat cs = .ok x → x.isFinite = true) ∧
      (IsDecimal (Text.trim cs) → ∃ x, Binary32.read (Text.trim cs) = some x ∧
        verdict (readFloat cs) = if x.isFinite then .value x else .malformed) ∧
      (¬ IsDecimal (Text.trim cs) → verdict (readFloat cs) = .mismatch .float)) ∧
    ∀ (kind : LiteralKind) (cs : List Char),
      (∀ v, readTriple kind cs = .ok v ↔ ∃ a b c, Text.words cs = [a, b, c] ∧
        readFloat a = .ok v.x ∧ readFloat b = .ok v.y ∧ readFloat c = .ok v.z) ∧
      (∀ before token after fault, Text.words cs = before ++ token :: after →
        (∀ word ∈ before, ∃ x, readFloat word = .ok x) → readFloat token = .error fault →
          readTriple kind cs = .error (fault.within kind)) ∧
      ((∀ word ∈ Text.words cs, ∃ x, readFloat word = .ok x) → (Text.words cs).length ≠ 3 →
        verdict (readTriple kind cs) = .malformed) := by
  refine ⟨fun token => ⟨Binary32.read_isSome_iff, fun hword x hx => ?_⟩,
    fun cs => ⟨fun _ => readFloat_finite, fun hdecimal => ?_, fun hother => ?_⟩,
    fun kind cs => ⟨fun _ => readTriple_eq_ok_iff, fun _ _ _ _ => readTriple_of_refused,
      fun hwords hcount => ?_⟩⟩
  · obtain ⟨y, hy, hfinite⟩ := Binary32.read_of_isWord hword
    obtain rfl := Option.some.inj (hx.symm.trans hy)
    exact hfinite
  · obtain ⟨x, hx, hread⟩ := readFloat_of_isDecimal hdecimal
    refine ⟨x, hx, ?_⟩
    rw [hread]
    cases x.isFinite <;> rfl
  · rw [readFloat_of_not_isDecimal hother]
    rfl
  · rw [readTriple_of_accepted hwords hcount]
    rfl

/-- A numeral that is too large, a word, a colour with a word and a numeral that is too large, and
a point with two coordinates. -/
theorem float_triple_verdict_refusals :
    verdict (readFloat " +1e39".toList) = .malformed ∧
    verdict (readFloat "-iNf".toList) = .mismatch .float ∧
    readTriple .rgb "0.1 red 1e60 4".toList = .error (.mismatch .rgb (.token "red")) ∧
    verdict (readTriple .point "1 .5e1".toList) = .malformed := by
  obtain ⟨-, hfloat, htriple⟩ := float_triple_verdict
  have haccepted : ∀ {token : List Char}, (readFloat token).isOk = true →
      ∃ x, readFloat token = .ok x := by
    intro token h
    cases hread : readFloat token with
    | ok x => exact ⟨x, rfl⟩
    | error fault =>
      rw [hread] at h
      cases h
  refine ⟨?_, ?_, ?_, ?_⟩
  · have hdecimal : IsDecimal (Text.trim " +1e39".toList) :=
      Numeral.read_decimal_iff.mp ⟨.decimal false 1 39, by decide +kernel, rfl⟩
    obtain ⟨x, hx, hverdict⟩ := (hfloat " +1e39".toList).2.1 hdecimal
    have hinfinite : Binary32.read (Text.trim " +1e39".toList) =
        some (Binary32.infinite false) := by
      decide +kernel
    obtain rfl := Option.some.inj (hx.symm.trans hinfinite)
    rw [hverdict]
    decide +kernel
  · refine (hfloat _).2.2 fun hdecimal => ?_
    obtain ⟨n, hn, hkind⟩ := Numeral.read_decimal_iff.mpr hdecimal
    have hword : Numeral.read (Text.trim "-iNf".toList) = some (.infinity true) := by
      decide +kernel
    obtain rfl := Option.some.inj (hn.symm.trans hword)
    cases hkind
  · refine (htriple .rgb _).2.1 ["0.1".toList] "red".toList ["1e60".toList, "4".toList]
      (.mismatch .float (.token "red")) (by decide +kernel) ?_ (by decide +kernel)
    rw [List.forall_mem_singleton]
    exact haccepted (by decide +kernel)
  · refine (htriple .point _).2.2 (fun word hword => haccepted ?_) (by decide +kernel)
    revert word
    decide +kernel

end Literal

end SceneGraph
