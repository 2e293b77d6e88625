import SceneGraph.Decimal.Integer
import SceneGraph.Markup.Fault

/-!
# The pieces of a document below its tags

What may be skipped between tags, names, and attribute values with their entities. Each
reader leaves less text than it was given, or as much (`readName_length_lt`,
`readValue_length_lt`, `skipAsides_length_le`).
-/

namespace SceneGraph.Markup

/-! ## Between tags -/

/-- The place behind blanks and asides. An aside ends at the first occurrence of its closing
text that does not start before the aside itself. -/
def skipAsides (c : Cursor) : Except Failure Cursor :=
  match Aside.all.find? fun a => c.skipBlanks.startsWith a.opening with
  | none => .ok c.skipBlanks
  | some a =>
    match _h : Text.indexOf? a.closing c.skipBlanks.rest with
    | none => c.skipBlanks.fail (.unterminatedAside a)
    | some i => skipAsides (c.skipBlanks.advance (i + a.closing.length))
termination_by c.rest.length
decreasing_by
  have h₁ := Text.indexOf?_add_length_le _h
  have h₂ := a.closing_length_pos
  have h₃ := c.length_skipBlanks_le
  rw [Cursor.length_advance]
  omega

theorem skipAsides_length_le {c c' : Cursor} (h : skipAsides c = .ok c') :
    c'.rest.length ≤ c.rest.length := by
  fun_induction skipAsides c with
  | case1 c =>
    injection h with h
    subst h
    exact c.length_skipBlanks_le
  | case2 => simp [Cursor.fail] at h
  | case3 c a _ i hi ih =>
    exact Nat.le_trans (ih h) (Nat.le_trans (c.skipBlanks.length_advance_le _) c.length_skipBlanks_le)

/-! ## Names -/

/-- Letters and numbers of any script, and four marks. -/
def isNameChar (c : Char) : Bool :=
  Text.isAlphanumeric c || c == '_' || c == '-' || c == '.' || c == ':'

/-- One or more name characters. -/
def readName (c : Cursor) : Except Failure (String × Cursor) :=
  if (c.run isNameChar).isEmpty then c.fail .expectedName
  else .ok (String.ofList (c.run isNameChar), c.skipRun isNameChar)

/-- The place behind `text`, which must stand here. -/
def expect (text : String) (c : Cursor) : Except Failure Cursor :=
  if c.startsWith text.toList then .ok (c.advance text.toList.length)
  else c.fail (.expected text)

/-! ## Attribute values -/

/-- The character with a code point; surrogates are none. -/
def charOf? (n : Nat) : Option Char :=
  if h : n.isValidChar then some (Char.ofNatAux n h) else none

/-- The character that an entity names. -/
def entity? (name : List Char) : Option Char :=
  match name with
  | ['l', 't'] => some '<'
  | ['g', 't'] => some '>'
  | ['a', 'm', 'p'] => some '&'
  | ['q', 'u', 'o', 't'] => some '"'
  | ['a', 'p', 'o', 's'] => some '\''
  | '#' :: 'x' :: digits => (Decimal.readHexUnsigned32 digits).bind charOf?
  | '#' :: digits => (Decimal.readUnsigned32 digits).bind charOf?
  | _ => none

/-- The character of the entity whose `&` stands here; its name is the text up to the next
semicolon. -/
def readEntity (c : Cursor) : Except Failure (Char × Cursor) :=
  match Text.indexOf? [';'] c.rest with
  | none => c.fail .unterminatedEntity
  | some i =>
    match entity? ((c.rest.take i).drop 1) with
    | none => c.fail (.unknownEntity (String.ofList ((c.rest.take i).drop 1)))
    | some x => .ok (x, c.advance (i + 1))

theorem readEntity_length_lt {c c' : Cursor} {x : Char} (h : readEntity c = .ok (x, c')) :
    c'.rest.length < c.rest.length := by
  unfold readEntity Cursor.fail at h
  split at h
  · simp at h
  · next i hi =>
    split at h
    · simp at h
    · have hle := Text.indexOf?_add_length_le hi
      injection h with h
      injection h with _ h
      subst h
      rw [Cursor.length_advance]
      simp only [List.length_singleton] at hle
      omega

/-- The rest of a value behind its opening quote; `value` is what was read, backwards. -/
def readValueFrom (quote : Char) (value : List Char) (c : Cursor) :
    Except Failure (String × Cursor) :=
  match _hc : c.rest with
  | [] => c.fail .unterminatedValue
  | x :: _ =>
    if x = quote then .ok (String.ofList value.reverse, c.advance 1)
    else if x = '<' then c.fail .lessThanInValue
    else if x = '&' then
      match _h : readEntity c with
      | .error e => .error e
      | .ok (y, c') => readValueFrom quote (y :: value) c'
    else readValueFrom quote (x :: value) (c.advance 1)
termination_by c.rest.length
decreasing_by
  · exact readEntity_length_lt _h
  · simp [_hc]

/-- A value between quotes of either sort. -/
def readValue (c : Cursor) : Except Failure (String × Cursor) :=
  match c.rest with
  | '"' :: _ => readValueFrom '"' [] (c.advance 1)
  | '\'' :: _ => readValueFrom '\'' [] (c.advance 1)
  | _ => c.fail .unquotedValue

/-! ## Less text is left after every piece -/

theorem expect_length_le {text : String} {c c' : Cursor} (h : expect text c = .ok c') :
    c'.rest.length ≤ c.rest.length := by
  unfold expect Cursor.fail at h
  split at h
  · injection h with h
    subst h
    exact c.length_advance_le _
  · simp at h

theorem readName_length_lt {c c' : Cursor} {name : String} (h : readName c = .ok (name, c')) :
    c'.rest.length < c.rest.length := by
  unfold readName Cursor.fail at h
  split at h
  · simp at h
  · next hne =>
    injection h with h
    injection h with _ h
    subst h
    have hle : (c.run isNameChar).length ≤ c.rest.length := (List.takeWhile_sublist _).length_le
    have hpos : 0 < (c.run isNameChar).length := by
      rw [List.length_pos_iff]
      simpa using hne
    rw [Cursor.skipRun, Cursor.length_advance]
    omega

theorem readValueFrom_length_lt {quote : Char} {value : List Char} {c c' : Cursor} {s : String}
    (h : readValueFrom quote value c = .ok (s, c')) : c'.rest.length < c.rest.length := by
  fun_induction readValueFrom quote value c with
  | case1 => simp [Cursor.fail] at h
  | case2 value c tail hc =>
    injection h with h
    injection h with _ h
    subst h
    simp [hc]
  | case3 => simp [Cursor.fail] at h
  | case4 value c _ _ _ _ e _ => simp at h
  | case5 _ _ _ _ _ hd _ _ _ ih => exact Nat.lt_trans (ih h) (readEntity_length_lt hd)
  | case6 value c x tail hc _ _ _ ih =>
    have := ih h
    simp [hc] at this ⊢
    omega

theorem readValue_length_lt {c c' : Cursor} {s : String} (h : readValue c = .ok (s, c')) :
    c'.rest.length < c.rest.length := by
  unfold readValue Cursor.fail at h
  split at h
  · exact Nat.lt_of_lt_of_le (readValueFrom_length_lt h) (c.length_advance_le 1)
  · exact Nat.lt_of_lt_of_le (readValueFrom_length_lt h) (c.length_advance_le 1)
  · simp at h

end SceneGraph.Markup
