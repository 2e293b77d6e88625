import SceneGraph.Location
import SceneGraph.Text.Blank
import SceneGraph.Text.Split
import SceneGraph.Text.Alphanumeric

/-!
# A place in a document

A cursor holds the text that is still unread and the position where that text starts. All
movement is `Cursor.advance`, so the position is always the one that the text read so far
leads to.
-/

namespace SceneGraph.Markup

structure Cursor where
  rest : List Char
  location : Location

namespace Cursor

/-- The start of a document. One byte order mark in front is no part of it. -/
def ofText (text : String) : Cursor :=
  match text.toList with
  | '\ufeff' :: cs => ⟨cs, Location.start⟩
  | cs => ⟨cs, Location.start⟩

/-- The cursor `n` characters further on. -/
def advance (c : Cursor) (n : Nat) : Cursor :=
  ⟨c.rest.drop n, c.location.after (c.rest.take n)⟩

def atEnd (c : Cursor) : Bool := c.rest.isEmpty

def startsWith (c : Cursor) (text : List Char) : Bool := text.isPrefixOf c.rest

/-- The characters in front of the cursor that satisfy `p`. -/
def run (c : Cursor) (p : Char → Bool) : List Char := c.rest.takeWhile p

def skipRun (c : Cursor) (p : Char → Bool) : Cursor := c.advance (c.run p).length

def skipBlanks (c : Cursor) : Cursor := c.skipRun Text.isBlank

@[simp] theorem rest_advance (c : Cursor) (n : Nat) : (c.advance n).rest = c.rest.drop n := rfl

theorem length_advance (c : Cursor) (n : Nat) :
    (c.advance n).rest.length = c.rest.length - n := by simp

theorem length_advance_le (c : Cursor) (n : Nat) :
    (c.advance n).rest.length ≤ c.rest.length := by simp

theorem length_skipBlanks_le (c : Cursor) : c.skipBlanks.rest.length ≤ c.rest.length :=
  length_advance_le c _

/-- Moving in two steps is moving once. -/
theorem advance_advance (c : Cursor) (m n : Nat) :
    (c.advance m).advance n = c.advance (m + n) := by
  simp only [advance, List.drop_drop, mk.injEq, true_and]
  rw [← Location.after_append, ← List.take_add]

end Cursor

end SceneGraph.Markup
