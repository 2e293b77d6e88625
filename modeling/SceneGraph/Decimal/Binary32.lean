import SceneGraph.Decimal.Numeral

/-!
# Single precision as exact numbers

A finite single precision number is `± mantissa * 2 ^ exponent`. `decode` takes a number
apart and `nearest` goes back from any ratio, to the nearest number and from the middle to
the one with an even mantissa. Both work on natural numbers, so no intermediate result is
rounded.
-/

namespace SceneGraph.Decimal

/-- What a single precision number stands for. -/
inductive Binary32 where
  | finite (negative : Bool) (mantissa : Nat) (exponent : Int)
  | infinity (negative : Bool)
  | nan
deriving DecidableEq, Repr

namespace Binary32

/-- The first of the 24 binary digits of a mantissa, and the weight of the exponent field. -/
def leadingBit : Nat := 0x800000

/-- The weight of the sign. -/
def signBit : Nat := 0x80000000

/-- The sign, exponent and fraction fields, read as a number. -/
def ofBits (bits : Nat) : Binary32 :=
  let negative := bits / signBit % 2 == 1
  let field : Nat := bits / leadingBit % 256
  let fraction : Nat := bits % leadingBit
  if field = 255 then if fraction = 0 then infinity negative else nan
  else if field = 0 then finite negative fraction (-149)
  else finite negative (leadingBit + fraction) ((field : Int) - 150)

def decode (x : Float32) : Binary32 := ofBits x.toBits.toNat

/-- `num / den` to the nearest whole number, from the middle to the even one. -/
def roundHalfEven (num den : Nat) : Nat :=
  let q := num / den
  let r := num % den
  if 2 * r < den then q
  else if den < 2 * r then q + 1
  else if q % 2 = 0 then q else q + 1

/-- `num / den` divided by `2 ^ e`, as a ratio. -/
def scaleDown (num den : Nat) (e : Int) : Nat × Nat :=
  if e < 0 then (num * Nat.pow 2 e.natAbs, den) else (num, den * Nat.pow 2 e.natAbs)

/-- The exponent at which `num / den` has 24 binary digits before the point, but no less than
that of the smallest number. -/
def exponentFor (num den : Nat) : Int :=
  let e : Int := (num.log2 : Int) - den.log2 - 23
  let (n, d) := scaleDown num den e
  max (-149) (if n < d * leadingBit then e - 1 else e)

/-- The bits of the nearest number to the positive ratio `num / den`. A mantissa that rounds
up to the next power of two carries into the exponent field, and past the largest number
the result is infinity. -/
def magnitudeBits (num den : Nat) : Nat :=
  if num = 0 then 0
  else
    let e := exponentFor num den
    let (n, d) := scaleDown num den e
    min (255 * leadingBit) ((e + 149).toNat * leadingBit + roundHalfEven n d)

/-- The nearest number to `± num / den`. -/
def nearest (negative : Bool) (num den : Nat) : Float32 :=
  Float32.ofBits (UInt32.ofNat ((if negative then signBit else 0) + magnitudeBits num den))

/-- The nearest number to a whole number. -/
def ofInt (i : Int) : Float32 := nearest (i < 0) i.natAbs 1

def infinite (negative : Bool) : Float32 :=
  Float32.ofBits (UInt32.ofNat ((if negative then signBit else 0) + 255 * leadingBit))

def notANumber : Float32 := Float32.ofBits 0x7fc00000

/-- The number of decimal digits of `n`. -/
def decimalLength (n : Nat) : Nat := (Nat.toDigits 10 n).length

/-- The nearest number to `± coefficient * 10 ^ exponent`. Magnitudes from `10 ^ 40` on are
infinite and those below `10 ^ -60` are zero whatever their digits, which bounds the powers
of ten that are computed. -/
def ofScientific (negative : Bool) (coefficient : Nat) (exponent : Int) : Float32 :=
  let size : Int := decimalLength coefficient + exponent
  if coefficient = 0 ∨ size < -60 then nearest negative 0 1
  else if 41 < size then infinite negative
  else if exponent < 0 then nearest negative coefficient (Nat.pow 10 exponent.natAbs)
  else nearest negative (coefficient * Nat.pow 10 exponent.natAbs) 1

def ofNumeral : Numeral → Float32
  | .decimal negative coefficient exponent => ofScientific negative coefficient exponent
  | .infinity negative => infinite negative
  | .nan => notANumber

/-- The number that a text denotes. -/
def read (cs : List Char) : Option Float32 := (Numeral.read cs).map ofNumeral

end Binary32

end SceneGraph.Decimal
