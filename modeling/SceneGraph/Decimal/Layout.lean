import SceneGraph.Decimal.Shortest

/-!
# How a number is laid out

A `Layout` says how the shortest digits of a number are written: between which powers of ten
in positions, whether a whole number keeps a point, whether a positive exponent keeps its
sign, and which way an exact tie goes. `fixed` writes a given number of places instead.
-/

namespace SceneGraph.Decimal

structure Layout where
  /-- The decimal exponents of the first digit for which the number is written in positions. -/
  positional : Int → Bool
  /-- Whole numbers written in positions end in `.0`. -/
  pointOnWhole : Bool
  /-- A positive exponent is written with a plus sign. -/
  plusOnExponent : Bool
  tie : Tie

namespace Layout

def zeros (n : Nat) : List Char := List.replicate n '0'

/-- Digits with the point behind the first `p` of them; zeros fill up on either side. -/
def inPositions (layout : Layout) (digits : List Char) (p : Int) : List Char :=
  if p ≤ 0 then '0' :: '.' :: zeros p.natAbs ++ digits
  else if p.toNat < digits.length then digits.take p.toNat ++ '.' :: digits.drop p.toNat
  else digits ++ zeros (p.toNat - digits.length) ++ (if layout.pointOnWhole then ['.', '0'] else [])

/-- One digit before the point and an exponent. -/
def withExponent (layout : Layout) (digits : List Char) (p : Int) : List Char :=
  let mantissa := match digits with
    | [] => []
    | [d] => [d]
    | d :: ds => d :: '.' :: ds
  let e := p - 1
  let sign := if e < 0 then ['-'] else if layout.plusOnExponent then ['+'] else []
  mantissa ++ 'e' :: sign ++ Nat.toDigits 10 e.natAbs

/-- The text of a positive finite number. -/
def magnitude (layout : Layout) (mantissa : Nat) (exponent : Int) : List Char :=
  let s := Shortest.find layout.tie mantissa exponent
  let digits := Nat.toDigits 10 s.digits
  let p := s.exponent + digits.length
  if layout.positional (p - 1) then layout.inPositions digits p else layout.withExponent digits p

def signed (negative : Bool) (text : List Char) : List Char :=
  if negative then '-' :: text else text

/-- The text of a number; zero keeps its sign. -/
def write (layout : Layout) (x : Float32) : String :=
  String.ofList <| match Binary32.decode x with
    | .nan => ['N', 'a', 'N']
    | .infinity negative => signed negative ['i', 'n', 'f']
    | .finite negative 0 _ =>
      signed negative ('0' :: if layout.pointOnWhole then ['.', '0'] else [])
    | .finite negative mantissa exponent => signed negative (layout.magnitude mantissa exponent)

end Layout

/-- The ratio `mantissa * 2 ^ exponent * 10 ^ places`, rounded to a whole number. -/
def inPlaces (places mantissa : Nat) (exponent : Int) : Nat :=
  let (num, den) := Shortest.gridRatio mantissa exponent (-places)
  Binary32.roundHalfEven num den

/-- The text of a number with the given number of places behind the point. The exact binary
value is rounded, from the middle to even, and a negative number keeps its sign even when it
rounds to zero. -/
def fixed (places : Nat) (x : Float32) : String :=
  String.ofList <| match Binary32.decode x with
    | .nan => ['N', 'a', 'N']
    | .infinity negative => Layout.signed negative ['i', 'n', 'f']
    | .finite negative mantissa exponent =>
      let digits := Nat.toDigits 10 (inPlaces places mantissa exponent)
      let padded := Layout.zeros (places + 1 - digits.length) ++ digits
      let whole := padded.length - places
      Layout.signed negative (padded.take whole ++ '.' :: padded.drop whole)

end SceneGraph.Decimal
