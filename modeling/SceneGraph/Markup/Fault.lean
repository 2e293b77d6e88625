import SceneGraph.Markup.Cursor

/-!
# What can be wrong with a document

Every fault of a document is met at one position, and reading ends there.
-/

namespace SceneGraph.Markup

/-- What may stand between tags besides blanks. -/
inductive Aside where
  | comment
  | instruction
  | doctype
deriving DecidableEq, Repr

namespace Aside

def all : List Aside := [comment, instruction, doctype]

def name : Aside → String
  | comment => "comment"
  | instruction => "processing instruction"
  | doctype => "DOCTYPE declaration"

def opening : Aside → List Char
  | comment => ['<', '!', '-', '-']
  | instruction => ['<', '?']
  | doctype => ['<', '!', 'D', 'O', 'C', 'T', 'Y', 'P', 'E']

def closing : Aside → List Char
  | comment => ['-', '-', '>']
  | instruction => ['?', '>']
  | doctype => ['>']

theorem closing_length_pos (a : Aside) : 0 < a.closing.length := by
  cases a <;> decide

end Aside

/-- Why a text is no document. -/
inductive Fault where
  | noRoot
  | trailingContent
  | expected (text : String)
  | expectedName
  | unterminatedAside (aside : Aside)
  | noBlankBeforeAttribute
  | repeatedAttribute (name : String)
  | unterminatedStartTag (tag : String)
  | neverClosed (tag : String)
  | wrongEndTag (found opened : String)
  | characterData
  | textInside (tag : String)
  | unquotedValue
  | lessThanInValue
  | unterminatedValue
  | unterminatedEntity
  | unknownEntity (text : String)
deriving DecidableEq, Repr

def Fault.message : Fault → String
  | .noRoot => "document has no root element"
  | .trailingContent => "unexpected content after the root element"
  | .expected text => s!"expected '{text}'"
  | .expectedName => "expected a name"
  | .unterminatedAside a => s!"unterminated {a.name}"
  | .noBlankBeforeAttribute => "expected whitespace before attribute"
  | .repeatedAttribute name => s!"duplicate attribute '{name}'"
  | .unterminatedStartTag tag => s!"unterminated start tag <{tag}>"
  | .neverClosed tag => s!"element <{tag}> is never closed"
  | .wrongEndTag found opened => s!"mismatched closing tag </{found}> for <{opened}>"
  | .characterData => "character data is not allowed in scene elements"
  | .textInside tag => s!"unexpected text inside <{tag}>"
  | .unquotedValue => "expected a quoted attribute value"
  | .lessThanInValue => "'<' is not allowed in attribute values"
  | .unterminatedValue => "unterminated attribute value"
  | .unterminatedEntity => "unterminated entity reference"
  | .unknownEntity text => s!"unknown entity '&{text};'"

/-- A fault and where it was met. -/
structure Failure where
  location : Location
  fault : Fault
deriving DecidableEq, Repr

def Failure.message (f : Failure) : String := s!"{f.fault.message} at {f.location.describe}"

def Cursor.fail {α : Type} (c : Cursor) (fault : Fault) : Except Failure α :=
  .error ⟨c.location, fault⟩

end SceneGraph.Markup
