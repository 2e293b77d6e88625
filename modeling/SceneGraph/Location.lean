/-!
# Positions in a text

Lines and columns count from 1, columns count characters, and only a line feed ends a line.
`Location.after` is the position that a stretch of text leads to; it is a fold, so it
composes over `++`.
-/

namespace SceneGraph

structure Location where
  line : Nat
  column : Nat
deriving DecidableEq, Repr, Inhabited

namespace Location

/-- The position of the first character of a text. -/
def start : Location := ⟨1, 1⟩

/-- The position behind `c`, when `c` stands at `l`. -/
def step (l : Location) (c : Char) : Location :=
  if c = '\n' then ⟨l.line + 1, 1⟩ else ⟨l.line, l.column + 1⟩

/-- The position behind the text `cs`, when `cs` starts at `l`. -/
def after (l : Location) (cs : List Char) : Location := cs.foldl step l

@[simp] theorem after_nil (l : Location) : l.after [] = l := rfl

@[simp] theorem after_cons (l : Location) (c : Char) (cs : List Char) :
    l.after (c :: cs) = (l.step c).after cs := rfl

theorem after_append (l : Location) (cs ds : List Char) :
    l.after (cs ++ ds) = (l.after cs).after ds := List.foldl_append

/-- How a position is named in messages. -/
def describe (l : Location) : String := s!"line {l.line}, column {l.column}"

end Location

end SceneGraph
