import SceneGraph.Kind
import SceneGraph.Geometry.Transform
import SceneGraph.Text.Blank

/-!
# Literal values

Literals are read from attribute text. Blanks around numbers and words are ignored; a string
is taken as it stands. A number must be finite: a decimal numeral too large for single
precision, and an integer too large for 64 bits, is out of range, while the words for
infinity and for "not a number" are no numbers at all.
-/

namespace SceneGraph

open SceneGraph.Geometry Decimal

/-- The value of a property. -/
inductive Value where
  | integer (n : Int)
  | float (x : Float32)
  | boolean (b : Bool)
  | text (s : String)
  | rgb (v : Vec3)
  | point (v : Vec3)
  | vector (v : Vec3)
  | transform (m : Mat4)
deriving DecidableEq

def Value.kind : Value → PropertyKind
  | .integer _ => .literal .integer
  | .float _ => .literal .float
  | .boolean _ => .literal .boolean
  | .text _ => .literal .text
  | .rgb _ => .literal .rgb
  | .point _ => .literal .point
  | .vector _ => .literal .vector
  | .transform _ => .transform

namespace Literal

/-- Why a text is no literal of a kind. -/
inductive Fault where
  /-- The text is not of that kind at all. -/
  | mismatch (expected : LiteralKind) (found : Found)
  /-- An integer or float that its format cannot hold. -/
  | integerRange (token : String)
  | floatRange (token : String)
  /-- A list of numbers with a length other than three. -/
  | notThree (kind : LiteralKind) (count : Nat)
deriving DecidableEq, Repr

/-- The wording of a fault that is not a mismatch of kinds. -/
def Fault.message : Fault → String
  | .mismatch expected found => s!"expected {expected.name}, found {found.describe}"
  | .integerRange t => s!"'{t}' is out of range for an integer"
  | .floatRange t => s!"'{t}' is out of range for a float"
  | .notThree kind n => s!"{kind.name} needs exactly 3 components, found {n}"

/-- The same fault, of a place that calls for `kind` as a whole. -/
def Fault.within (kind : LiteralKind) : Fault → Fault
  | .mismatch _ found => .mismatch kind found
  | fault => fault

def describeToken (cs : List Char) : Found :=
  if cs.isEmpty then .nothing else .token (String.ofList cs)

/-- Only characters that decimal numerals are made of. -/
def looksNumeric (cs : List Char) : Bool :=
  cs.all fun c => c.isDigit || ['-', '+', '.', 'e', 'E'].contains c

/-- A finite number; blanks around it are ignored. -/
def readFloat (cs : List Char) : Except Fault Float32 :=
  let token := Text.trim cs
  match Binary32.read token with
  | some x =>
    if x.isFinite then .ok x
    else if looksNumeric token then .error (.floatRange (String.ofList token))
    else .error (.mismatch .float (describeToken token))
  | none => .error (.mismatch .float (describeToken token))

/-- Finite numbers with blanks between them, up to the first word that is none. -/
def readFloats (cs : List Char) : Except Fault (List Float32) := (Text.words cs).mapM readFloat

/-- Three finite numbers. A word that is no number counts before a wrong count. -/
def readTriple (kind : LiteralKind) (cs : List Char) : Except Fault Vec3 :=
  match readFloats cs with
  | .error fault => .error (fault.within kind)
  | .ok [x, y, z] => .ok ⟨x, y, z⟩
  | .ok values => .error (.notThree kind values.length)

/-- A signed integer of 64 bits; blanks around it are ignored. -/
def readInteger (cs : List Char) : Except Fault Int :=
  let token := Text.trim cs
  match readSigned64 token with
  | some n => .ok n
  | none =>
    if isNumeral (withoutSign token) then .error (.integerRange (String.ofList token))
    else if (Numeral.read token).isSome then
      .error (.mismatch .integer (.floatToken (String.ofList token)))
    else .error (.mismatch .integer (describeToken token))

def readBoolean (cs : List Char) : Except Fault Bool :=
  let token := Text.trim cs
  if token = ['t', 'r', 'u', 'e'] then .ok true
  else if token = ['f', 'a', 'l', 's', 'e'] then .ok false
  else .error (.mismatch .boolean (describeToken token))

/-- The literal of a kind that a text writes. -/
def read (kind : LiteralKind) (raw : String) : Except Fault Value :=
  let cs := raw.toList
  match kind with
  | .integer => Value.integer <$> readInteger cs
  | .float => Value.float <$> readFloat cs
  | .boolean => Value.boolean <$> readBoolean cs
  | .text => .ok (.text raw)
  | .rgb => Value.rgb <$> readTriple kind cs
  | .point => Value.point <$> readTriple kind cs
  | .vector => Value.vector <$> readTriple kind cs

end Literal

end SceneGraph
