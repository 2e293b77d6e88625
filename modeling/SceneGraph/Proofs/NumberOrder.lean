import Mathlib.Data.Prod.Lex
import Mathlib.Order.Compare
import SceneGraph.Geometry.Vector

/-!
# The order of single precision numbers

What is not a number compares with nothing.  All other numbers are in a linear order: they have a
`rank` and compare as their ranks do (`compare_eq`).  So a bound on the least or the greatest
component of a vector is one on each of them (`Vec3.not_lt_of_least`, `Vec3.not_lt_of_greatest`).

* `isNaN_of_isFinite` and `isNaN_ofInt` tell what is a number: what is read from a text, and what a
  whole number is converted to.
-/

namespace SceneGraph

open Float.Model (UnpackedFloat Format)

/-! ## Ranks -/

/-- The sign and kind of a number, then its exponent and its mantissa. -/
def unpackedRank : UnpackedFloat → ℤ ×ₗ ℤ ×ₗ ℤ
  | .infinity .positive => toLex (2, toLex (0, 0))
  | .finite .positive m e _ => toLex (1, toLex (e, (m : ℤ)))
  | .zero _ | .notANumber => toLex (0, toLex (0, 0))
  | .finite .negative m e _ => toLex (-1, toLex (-e, -(m : ℤ)))
  | .infinity .negative => toLex (-2, toLex (0, 0))

/-- The place of a number in the order. -/
def rank (x : Float32) : ℤ ×ₗ ℤ ×ₗ ℤ := unpackedRank x.toModel.unpack

theorem compare_neg (a b : ℤ) : compare (-a) (-b) = (compare a b).swap := by
  have hanti : StrictAnti fun n : ℤ => -n := fun _ _ h => Int.neg_lt_neg h
  rw [← cmp_eq_compare, ← cmp_eq_compare, cmp_swap]
  exact hanti.cmp_map_eq a b

theorem compare_natCast (a b : ℕ) : compare (a : ℤ) b = compare a b := by
  have hmono : StrictMono fun n : ℕ => (n : ℤ) := fun _ _ h => Int.ofNat_lt.mpr h
  rw [← cmp_eq_compare, ← cmp_eq_compare]
  exact hmono.cmp_map_eq a b

theorem compare_toLex (a b c d e f : ℤ) :
    compare (toLex (a, toLex (b, c))) (toLex (d, toLex (e, f))) =
      (compare a d).then ((compare b e).then (compare c f)) := by
  simp [Prod.Lex.compare_def, compareLex, compareOn]

/-- Numbers compare as their ranks. -/
theorem unpacked_compare_eq {a b : UnpackedFloat} (ha : a.isNaN = false) (hb : b.isNaN = false) :
    a.compare b = some (compare (unpackedRank a) (unpackedRank b)) := by
  cases a with
  | notANumber => cases ha
  | infinity s =>
    cases s <;> cases b with
    | notANumber => cases hb
    | infinity t => cases t <;> rfl
    | zero t => rfl
    | finite t m e h => cases t <;> rfl
  | zero s =>
    cases b with
    | notANumber => cases hb
    | infinity t => cases t <;> rfl
    | zero t => rfl
    | finite t m e h => cases t <;> rfl
  | finite s m e h =>
    cases b with
    | notANumber => cases hb
    | infinity t => cases s <;> cases t <;> rfl
    | zero t => cases s <;> rfl
    | finite t m' e' h' =>
      -- only numbers of one sign are told apart by their exponents and mantissas
      cases s <;> cases t
      case positive.positive =>
        show some ((compare e e').then (compare m m')) =
          some (compare (toLex (1, toLex (e, (m : ℤ)))) (toLex (1, toLex (e', (m' : ℤ)))))
        rw [compare_toLex, compare_natCast]
        rfl
      case negative.negative =>
        show some ((compare e e').then (compare m m')).swap =
          some (compare (toLex (-1, toLex (-e, -(m : ℤ)))) (toLex (-1, toLex (-e', -(m' : ℤ)))))
        rw [compare_toLex, compare_neg 1, compare_neg e, compare_neg m, compare_natCast,
          Ordering.swap_then]
        rfl
      all_goals
        show some _ = some (compare (toLex (_, toLex (_, _))) (toLex (_, toLex (_, _))))
        rw [compare_toLex]
        rfl

variable {x y z : Float32}

theorem lt_iff_rank (hx : x.isNaN = false) (hy : y.isNaN = false) : x < y ↔ rank x < rank y := by
  show (decide (x.toModel < y.toModel)) = true ↔ _
  rw [decide_eq_true_iff]
  show (x.toModel.unpack.compare y.toModel.unpack == some .lt) = true ↔ _
  rw [unpacked_compare_eq hx hy, beq_iff_eq, Option.some_inj, compare_lt_iff_lt]
  rfl

theorem le_iff_rank (hx : x.isNaN = false) (hy : y.isNaN = false) : x ≤ y ↔ rank x ≤ rank y := by
  show (decide (x.toModel ≤ y.toModel)) = true ↔ _
  rw [decide_eq_true_iff]
  show (x.toModel.unpack.compare y.toModel.unpack).any (·.isLE) = true ↔ _
  rw [unpacked_compare_eq hx hy]
  exact Ordering.isLE_iff_ne_gt.trans (compare_le_iff_le (a := rank x) (b := rank y))

theorem le_of_not_lt (hx : x.isNaN = false) (hy : y.isNaN = false) (h : ¬ y < x) : x ≤ y := by
  rw [lt_iff_rank hy hx] at h
  exact (le_iff_rank hx hy).mpr (not_lt.mp h)

/-! ## Least and greatest components -/

namespace Geometry

/-- A bound on the smaller of two numbers is one on both. -/
theorem not_lt_of_lesser (hx : x.isNaN = false) (hy : y.isNaN = false) (hz : z.isNaN = false)
    (h : ¬ lesser x y < z) : ¬ x < z ∧ ¬ y < z := by
  unfold lesser at h
  simp only [hx, Bool.or_false, decide_eq_true_eq] at h
  split at h
  · next hlt =>
    refine ⟨fun hxz => h ?_, h⟩
    rw [lt_iff_rank hy hz]
    exact ((lt_iff_rank hy hx).mp hlt).trans ((lt_iff_rank hx hz).mp hxz)
  · next hle =>
    refine ⟨h, fun hyz => h ?_⟩
    rw [lt_iff_rank hx hz]
    exact (not_lt.mp fun hrank => hle ((lt_iff_rank hy hx).mpr hrank)).trans_lt
      ((lt_iff_rank hy hz).mp hyz)

/-- A bound on the larger of two numbers is one on both. -/
theorem not_lt_of_greater (hx : x.isNaN = false) (hy : y.isNaN = false) (hz : z.isNaN = false)
    (h : ¬ z < greater x y) : ¬ z < x ∧ ¬ z < y := by
  unfold greater at h
  simp only [hx, Bool.or_false, decide_eq_true_eq] at h
  split at h
  · next hlt =>
    refine ⟨fun hzx => h ?_, h⟩
    rw [lt_iff_rank hz hy]
    exact ((lt_iff_rank hz hx).mp hzx).trans ((lt_iff_rank hx hy).mp hlt)
  · next hle =>
    refine ⟨h, fun hzy => h ?_⟩
    rw [lt_iff_rank hz hx]
    exact ((lt_iff_rank hz hy).mp hzy).trans_le
      (not_lt.mp fun hrank => hle ((lt_iff_rank hx hy).mpr hrank))

theorem isNaN_lesser (hx : x.isNaN = false) (hy : y.isNaN = false) :
    (lesser x y).isNaN = false := by
  unfold lesser
  split
  · exact hy
  · exact hx

theorem isNaN_greater (hx : x.isNaN = false) (hy : y.isNaN = false) :
    (greater x y).isNaN = false := by
  unfold greater
  split
  · exact hy
  · exact hx

/-- Every component is a number. -/
def Vec3.Proper (v : Vec3) : Prop := ∀ c ∈ v.toList, c.isNaN = false

theorem Vec3.not_lt_of_least {v : Vec3} (hv : v.Proper) (hz : z.isNaN = false)
    (h : ¬ v.least < z) : ∀ c ∈ v.toList, ¬ c < z := by
  obtain ⟨hx, hy, hw⟩ : v.x.isNaN = false ∧ v.y.isNaN = false ∧ v.z.isNaN = false := by
    simpa [Proper, toList] using hv
  obtain ⟨hfirst, hrest⟩ := not_lt_of_lesser hx (isNaN_lesser hy hw) hz h
  obtain ⟨hsecond, hthird⟩ := not_lt_of_lesser hy hw hz hrest
  simpa [toList] using ⟨hfirst, hsecond, hthird⟩

theorem Vec3.not_lt_of_greatest {v : Vec3} (hv : v.Proper) (hz : z.isNaN = false)
    (h : ¬ z < v.greatest) : ∀ c ∈ v.toList, ¬ z < c := by
  obtain ⟨hx, hy, hw⟩ : v.x.isNaN = false ∧ v.y.isNaN = false ∧ v.z.isNaN = false := by
    simpa [Proper, toList] using hv
  obtain ⟨hfirst, hrest⟩ := not_lt_of_greater hx (isNaN_greater hy hw) hz h
  obtain ⟨hsecond, hthird⟩ := not_lt_of_greater hy hw hz hrest
  simpa [toList] using ⟨hfirst, hsecond, hthird⟩

end Geometry

/-! ## What is a number -/

theorem isNaN_of_isFinite (h : x.isFinite = true) : x.isNaN = false := by
  change x.toModel.unpack.isFinite = true at h
  show x.toModel.unpack.isNaN = false
  cases hx : x.toModel.unpack with
  | notANumber =>
    rw [hx] at h
    cases h
  | _ => rfl

/-- What is not a number has the largest exponent and a mantissa. -/
theorem isNaN_unpack_iff (b : BitVec Format.binary32.numBits) :
    (UnpackedFloat.unpack Format.binary32 b).isNaN = true ↔
      UnpackedFloat.unpackExponent b = -1#8 ∧ UnpackedFloat.unpackMantissa b ≠ 0#23 := by
  by_cases hexponent : UnpackedFloat.unpackExponent b = -1#8
  · by_cases hmantissa : UnpackedFloat.unpackMantissa b = 0#23
    · have hunpack : UnpackedFloat.unpack Format.binary32 b = .infinity _ :=
        (if_pos hexponent).trans (if_pos hmantissa)
      rw [hunpack]
      exact iff_of_false Bool.false_ne_true fun h => h.2 hmantissa
    · have hunpack : UnpackedFloat.unpack Format.binary32 b = .notANumber :=
        (if_pos hexponent).trans (if_neg hmantissa)
      rw [hunpack]
      exact iff_of_true rfl ⟨hexponent, hmantissa⟩
  · refine iff_of_false ?_ fun h => hexponent h.1
    by_cases hzero : UnpackedFloat.unpackExponent b = 0#8
    · by_cases hmantissa : UnpackedFloat.unpackMantissa b = 0#23
      · have hunpack : UnpackedFloat.unpack Format.binary32 b = .zero _ :=
          (if_neg hexponent).trans ((if_pos hzero).trans (dif_pos hmantissa))
        rw [hunpack]
        exact Bool.false_ne_true
      · have hunpack : UnpackedFloat.unpack Format.binary32 b = .finite _ _ _ _ :=
          (if_neg hexponent).trans ((if_pos hzero).trans (dif_neg hmantissa))
        rw [hunpack]
        exact Bool.false_ne_true
    · have hunpack : UnpackedFloat.unpack Format.binary32 b = .finite _ _ _ _ :=
        (if_neg hexponent).trans (if_neg hzero)
      rw [hunpack]
      exact Bool.false_ne_true

/-- A finite number that is too large is packed as an infinity, any other below it. -/
theorem pack_finite (s : UnpackedFloat.Sign) {m : Nat} {e : Int} (hm : 0 < m) :
    UnpackedFloat.pack Format.binary32 (.finite s m e hm) =
        UnpackedFloat.packedInfinity Format.binary32 s ∨
      ∃ exponent mantissa, exponent ≠ -1#8 ∧
        UnpackedFloat.pack Format.binary32 (.finite s m e hm) =
          UnpackedFloat.packComponents Format.binary32 s exponent mantissa := by
  by_cases hbound : 2 ^ 8 ≤ (e + 127 + 23).toNat + 1
  · exact .inl (if_pos hbound)
  refine .inr ?_
  by_cases hnormal : m.log2 + 1 = 24
  · refine ⟨BitVec.ofNat 8 (e + 127 + 23).toNat, _, fun hexponent => hbound ?_,
      (if_neg hbound).trans (if_pos hnormal)⟩
    have hfield := congrArg BitVec.toNat hexponent
    simp only [BitVec.toNat_ofNat, BitVec.reduceNeg] at hfield
    omega
  · exact ⟨0#8, _, by decide, (if_neg hbound).trans (if_neg hnormal)⟩

/-- Packing makes no number into something else. -/
theorem isNaN_unpack_pack {u : UnpackedFloat} (h : u.isNaN = false) :
    (UnpackedFloat.unpack Format.binary32 (UnpackedFloat.pack Format.binary32 u)).isNaN =
      false := by
  rw [Bool.eq_false_iff, Ne, isNaN_unpack_iff]
  rintro ⟨hexponent, hmantissa⟩
  cases u with
  | notANumber => cases h
  | infinity s => exact hmantissa UnpackedFloat.unpackMantissa_packComponents
  | zero s =>
    have hzero : (0#8 : BitVec 8) ≠ -1#8 := by decide
    exact hzero (UnpackedFloat.unpackExponent_packComponents.symm.trans hexponent)
  | finite s m e hm =>
    obtain hpack | ⟨exponent, mantissa, hne, hpack⟩ := pack_finite s (e := e) hm
    · rw [hpack] at hmantissa
      exact hmantissa UnpackedFloat.unpackMantissa_packComponents
    · rw [hpack] at hexponent
      exact hne (UnpackedFloat.unpackExponent_packComponents.symm.trans hexponent)

/-- Up to those of infinity, the bits below the sign are those of a number. -/
theorem isNaN_ofBits {n : UInt32} (h : n.toNat % 0x80000000 ≤ 0x7f800000) :
    (Float32.ofBits n).isNaN = false := by
  refine isNaN_unpack_pack ?_
  rw [Bool.eq_false_iff, Ne, isNaN_unpack_iff]
  rintro ⟨hexponent, hmantissa⟩
  apply hmantissa
  have hfield := congrArg BitVec.toNat hexponent
  apply BitVec.eq_of_toNat_eq
  simp [UnpackedFloat.unpackExponent, UnpackedFloat.unpackMantissa, BitVec.extractLsb,
    BitVec.extractLsb', Nat.shiftRight_eq_div_pow] at hfield ⊢
  omega

namespace Decimal.Binary32

theorem magnitudeBits_le (num den : Nat) : magnitudeBits num den ≤ 255 * leadingBit := by
  unfold magnitudeBits
  split
  · exact Nat.zero_le _
  · extract_lets e
    -- the limit is there whatever the ratio is
    generalize scaleDown num den e = ratio
    obtain ⟨n, d⟩ := ratio
    exact Nat.min_le_left _ _

theorem isNaN_nearest (negative : Bool) (num den : Nat) :
    (nearest negative num den).isNaN = false := by
  have hmagnitude := magnitudeBits_le num den
  rw [leadingBit] at hmagnitude
  refine isNaN_ofBits ?_
  cases negative
  all_goals
    simp only [UInt32.toNat_ofNat', signBit, if_true, Bool.false_eq_true, if_false]
    omega

theorem isNaN_ofInt (i : Int) : (ofInt i).isNaN = false := isNaN_nearest _ _ _

end Decimal.Binary32

end SceneGraph
