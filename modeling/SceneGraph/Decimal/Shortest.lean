import SceneGraph.Decimal.Binary32

/-!
# The fewest digits that read back

Every single precision number is the nearest one to all decimals in an interval around it.
`Shortest.find` tries one to nine digits in turn. At each length only the two neighbours of
the number on the grid of that length can be the answer: the first length at which one of
them lies in the interval is taken, of two the nearer one, and a caller decides an exact tie.
-/

namespace SceneGraph.Decimal

/-- The decimal `digits * 10 ^ exponent`. -/
structure Shortest where
  digits : Nat
  exponent : Int
deriving DecidableEq, Repr

/-- Which of two equally near neighbours is taken. -/
inductive Tie where
  | toEven
  | up
deriving DecidableEq, Repr

namespace Shortest

/-- Ends of the interval of decimals that round to `mantissa * 2 ^ exponent`, in quarters of
the last binary place. Below a power of two the neighbour is only half as far away. -/
def interval (mantissa : Nat) (exponent : Int) : Nat × Nat :=
  if mantissa = Binary32.leadingBit ∧ -149 < exponent then (4 * mantissa - 1, 4 * mantissa + 2)
  else (4 * mantissa - 2, 4 * mantissa + 2)

/-- `a * 2 ^ e / 10 ^ k` as a ratio. -/
def gridRatio (a : Nat) (e k : Int) : Nat × Nat :=
  let num := if 0 ≤ e then a * Nat.pow 2 e.natAbs else a
  let den := if 0 ≤ e then 1 else Nat.pow 2 e.natAbs
  if 0 ≤ k then (num, den * Nat.pow 10 k.natAbs) else (num * Nat.pow 10 k.natAbs, den)

/-- The `p` with `10 ^ (p - 1) ≤ mantissa * 2 ^ exponent < 10 ^ p`. -/
def pointPosition (mantissa : Nat) (exponent : Int) : Int :=
  let (num, den) := gridRatio mantissa exponent (-60)
  (Binary32.decimalLength (num / den) : Int) - 60

/-- The neighbour with `length` digits that rounds to the number, if there is one. -/
def atLength (tie : Tie) (mantissa : Nat) (exponent : Int) (length : Nat) : Option Shortest :=
  let k := pointPosition mantissa exponent - length
  let (low, high) := interval mantissa exponent
  let (num, den) := gridRatio (4 * mantissa) (exponent - 2) k
  let lowNum := (gridRatio low (exponent - 2) k).1
  let highNum := (gridRatio high (exponent - 2) k).1
  let inside (c : Nat) : Bool :=
    if mantissa % 2 = 0 then lowNum ≤ c * den && c * den ≤ highNum
    else lowNum < c * den && c * den < highNum
  let pack (c : Nat) : Shortest :=
    if c = Nat.pow 10 length then ⟨1, k + length⟩ else ⟨c, k⟩
  let below := num / den
  match inside below, inside (below + 1) with
  | false, false => none
  | true, false => some (pack below)
  | false, true => some (pack (below + 1))
  | true, true =>
    let double := 2 * num
    let middle := (2 * below + 1) * den
    if double < middle then some (pack below)
    else if middle < double then some (pack (below + 1))
    else match tie with
      | .up => some (pack (below + 1))
      | .toEven => some (pack (if below % 2 = 0 then below else below + 1))

/-- The shortest decimal that rounds to `mantissa * 2 ^ exponent`, for a positive mantissa;
nine digits are always enough. -/
def find (tie : Tie) (mantissa : Nat) (exponent : Int) : Shortest :=
  ((List.range' 1 9).findSome? (atLength tie mantissa exponent)).getD ⟨0, 0⟩

end Shortest

end SceneGraph.Decimal
