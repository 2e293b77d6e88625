/-!
# Whole numbers in decimal

`readNatural` reads one or more ASCII digits; `readInteger` also takes one sign, and
`readUnsigned` a plus sign. All read the whole text or nothing, with any number of leading
zeros, and no size limit: a reader with a range checks the value.
-/

namespace SceneGraph.Decimal

/-- The value of a digit character. -/
def digitValue (c : Char) : Nat := c.toNat - '0'.toNat

/-- The number that a run of digits denotes, continuing from `n`. -/
def naturalFrom (n : Nat) (cs : List Char) : Nat :=
  cs.foldl (fun acc c => 10 * acc + digitValue c) n

/-- One or more digits and nothing else. -/
def isNumeral (cs : List Char) : Bool := !cs.isEmpty && cs.all Char.isDigit

/-- The value of one or more digits. -/
def readNatural (cs : List Char) : Option Nat :=
  if isNumeral cs then some (naturalFrom 0 cs) else none

/-- Digits after an optional plus sign. -/
def readUnsigned : List Char → Option Nat
  | '+' :: cs => readNatural cs
  | cs => readNatural cs

/-- Digits after an optional sign. -/
def readInteger : List Char → Option Int
  | '+' :: cs => (readNatural cs).map Int.ofNat
  | '-' :: cs => (readNatural cs).map fun n => -Int.ofNat n
  | cs => (readNatural cs).map Int.ofNat

/-- The text behind an optional sign. -/
def withoutSign : List Char → List Char
  | '+' :: cs => cs
  | '-' :: cs => cs
  | cs => cs

/-- Whether the value fits 32 bits without a sign. -/
def fitsUnsigned32 (n : Nat) : Bool := n < UInt32.size

/-- Whether the value fits 64 bits with a sign. -/
def fitsSigned64 (i : Int) : Bool := -0x8000000000000000 ≤ i && i < 0x8000000000000000

def readUnsigned32 (cs : List Char) : Option Nat := (readUnsigned cs).filter fitsUnsigned32

def readSigned64 (cs : List Char) : Option Int := (readInteger cs).filter fitsSigned64

/-- The value of a hexadecimal digit of either case. -/
def hexDigitValue? (c : Char) : Option Nat :=
  if '0' ≤ c ∧ c ≤ '9' then some (c.toNat - '0'.toNat)
  else if 'a' ≤ c ∧ c ≤ 'f' then some (c.toNat - 'a'.toNat + 10)
  else if 'A' ≤ c ∧ c ≤ 'F' then some (c.toNat - 'A'.toNat + 10)
  else none

/-- The value of one or more hexadecimal digits. -/
def readHexNatural (cs : List Char) : Option Nat :=
  if cs.isEmpty then none
  else cs.foldlM (fun acc c => (hexDigitValue? c).map (16 * acc + ·)) 0

/-- Hexadecimal digits after an optional plus sign, for a value of 32 bits. -/
def readHexUnsigned32 : List Char → Option Nat
  | '+' :: cs => (readHexNatural cs).filter fitsUnsigned32
  | cs => (readHexNatural cs).filter fitsUnsigned32

end SceneGraph.Decimal
