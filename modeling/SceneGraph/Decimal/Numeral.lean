import SceneGraph.Decimal.Integer

/-!
# Decimal numerals with point and exponent

`Numeral.read` accepts an optional sign followed by one of the words `inf`, `infinity` and
`nan` in any case, or by digits with an optional point, at least one digit on one side of it,
and an optional exponent. Nothing else is a numeral. A numeral is read exactly: its value is
`coefficient * 10 ^ exponent`.
-/

namespace SceneGraph.Decimal

/-- What a numeral denotes before any rounding. -/
inductive Numeral where
  | decimal (negative : Bool) (coefficient : Nat) (exponent : Int)
  | infinity (negative : Bool)
  | nan
deriving DecidableEq, Repr

namespace Numeral

/-- The part behind the digits: nothing, or `e` and a signed whole number. -/
def readExponent : List Char → Option Int
  | [] => some 0
  | c :: cs => if c = 'e' ∨ c = 'E' then readInteger cs else none

/-- Digits, point and exponent without a sign. -/
def readUnsignedDecimal (negative : Bool) (cs : List Char) : Option Numeral :=
  let whole := cs.takeWhile Char.isDigit
  let rest := cs.dropWhile Char.isDigit
  let (fraction, rest) := match rest with
    | '.' :: r => (r.takeWhile Char.isDigit, r.dropWhile Char.isDigit)
    | r => ([], r)
  if whole.isEmpty && fraction.isEmpty then none
  else (readExponent rest).map fun e =>
    decimal negative (naturalFrom 0 (whole ++ fraction)) (e - fraction.length)

/-- The words for values that are no decimal number. -/
def readWord (negative : Bool) (cs : List Char) : Option Numeral :=
  let word := cs.map Char.toLower
  if word = ['i', 'n', 'f'] ∨ word = ['i', 'n', 'f', 'i', 'n', 'i', 't', 'y'] then
    some (infinity negative)
  else if word = ['n', 'a', 'n'] then some nan
  else none

def readUnsigned (negative : Bool) (cs : List Char) : Option Numeral :=
  readUnsignedDecimal negative cs <|> readWord negative cs

/-- The numeral that is the whole text. -/
def read : List Char → Option Numeral
  | '+' :: cs => readUnsigned false cs
  | '-' :: cs => readUnsigned true cs
  | cs => readUnsigned false cs

end Numeral

end SceneGraph.Decimal
