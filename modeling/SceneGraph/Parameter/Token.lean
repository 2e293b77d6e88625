/-!
# Parameter tokens in a text

A token is a dollar sign and the longest run of name characters behind it. A dollar sign without
a name is a character like any other.
-/

namespace SceneGraph.Parameter

/-- ASCII letters, digits and the underscore. -/
def isNameChar (c : Char) : Bool := c.isAlphanum || c == '_'

/-- A text that can be written as a token behind a dollar sign. -/
def isName (cs : List Char) : Bool := !cs.isEmpty && cs.all isNameChar

theorem length_drop_of_idxOf? {cs : List Char} {c : Char} {i : Nat} (h : cs.idxOf? c = some i) :
    (cs.drop (i + 1)).length < cs.length := by
  obtain ⟨hi, -⟩ := List.findIdx?_eq_some_iff_getElem.mp h
  rw [List.length_drop]
  omega

/-- The name in the first token of a text. A dollar sign without a name is passed over. -/
def firstToken? (rest : List Char) : Option (List Char) :=
  match _h : rest.idxOf? '$' with
  | none => none
  | some dollar =>
    let after := rest.drop (dollar + 1)
    let length := (after.findIdx? (!isNameChar ·)).getD after.length
    if 0 < length then some (after.take length) else firstToken? after
termination_by rest.length
decreasing_by exact length_drop_of_idxOf? _h

end SceneGraph.Parameter
