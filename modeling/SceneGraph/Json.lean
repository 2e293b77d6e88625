import SceneGraph.Decimal.Layout

/-!
# JSON values and their two written forms

Fields of an object keep the order in which they are given. `Json.compact` writes a value on
one line; `Json.pretty` gives every element and every field a line of its own, indented by
two spaces a level, and writes an empty container as its two brackets.
-/

namespace SceneGraph

inductive Json where
  | null
  | bool (value : Bool)
  | int (value : Int)
  | float (value : Float32)
  | str (value : String)
  | arr (elements : List Json)
  | obj (fields : List (String × Json))

namespace Json

/-- JSON writes exponents with their sign, outside `1e-6` to `1e13`. -/
def layout : Decimal.Layout := ⟨fun e => -6 ≤ e && e ≤ 12, true, true, .toEven⟩

/-- A number that is not finite has no JSON form but `null`. -/
def floatText (x : Float32) : String := if x.isFinite then layout.write x else "null"

def escapeChar (c : Char) : List Char :=
  if c = '"' then ['\\', '"']
  else if c = '\\' then ['\\', '\\']
  else if c = '\n' then ['\\', 'n']
  else if c = '\r' then ['\\', 'r']
  else if c = '\t' then ['\\', 't']
  else if c = '\x08' then ['\\', 'b']
  else if c = '\x0c' then ['\\', 'f']
  else if c.toNat < 0x20 then
    let digits := Nat.toDigits 16 c.toNat
    ['\\', 'u'] ++ List.replicate (4 - digits.length) '0' ++ digits
  else [c]

/-- A text between double quotes; control characters are escaped. -/
def stringText (s : String) : String :=
  String.ofList ('"' :: s.toList.flatMap escapeChar ++ ['"'])

/-- The text of a value that is no container. -/
def scalarText : Json → String
  | .null => "null"
  | .bool b => if b then "true" else "false"
  | .int i => toString i
  | .float x => floatText x
  | .str s => stringText s
  | .arr _ => "[]"
  | .obj _ => "\x7b\x7d"

/-- A separator, unless nothing follows. -/
def between {α : Type} (separator : String) (rest : List α) : String :=
  if rest.isEmpty then "" else separator

mutual

/-- The value on one line without spaces. -/
def compact : Json → String
  | .arr elements => "[" ++ compactElements elements ++ "]"
  | .obj fields => "\x7b" ++ compactFields fields ++ "\x7d"
  | scalar => scalarText scalar

def compactElements : List Json → String
  | [] => ""
  | v :: vs => compact v ++ between "," vs ++ compactElements vs

def compactFields : List (String × Json) → String
  | [] => ""
  | (k, v) :: fields =>
    stringText k ++ ":" ++ compact v ++ between "," fields ++ compactFields fields

end

/-- A line end and the indentation of a level. -/
def newline (level : Nat) : String := String.ofList ('\n' :: List.replicate (2 * level) ' ')

mutual

/-- The value over several lines, when it starts at the given level. -/
def prettyAt (level : Nat) : Json → String
  | .arr elements =>
    if elements.isEmpty then "[]"
    else "[" ++ newline (level + 1) ++ prettyElements (level + 1) elements ++ newline level ++ "]"
  | .obj fields =>
    if fields.isEmpty then "\x7b\x7d"
    else "\x7b" ++ newline (level + 1) ++ prettyFields (level + 1) fields ++ newline level ++ "\x7d"
  | scalar => scalarText scalar

def prettyElements (level : Nat) : List Json → String
  | [] => ""
  | v :: vs => prettyAt level v ++ between ("," ++ newline level) vs ++ prettyElements level vs

def prettyFields (level : Nat) : List (String × Json) → String
  | [] => ""
  | (k, v) :: fields =>
    stringText k ++ ": " ++ prettyAt level v ++ between ("," ++ newline level) fields ++
      prettyFields level fields

end

def pretty (v : Json) : String := prettyAt 0 v

/-- `null` for nothing. -/
def ofOption {α : Type} (f : α → Json) : Option α → Json
  | none => .null
  | some a => f a

end Json

end SceneGraph
