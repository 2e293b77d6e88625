import SceneGraph.Markup.Element
import SceneGraph.Markup.Lexeme

/-!
# Tags

A start tag opens a frame, which collects the children of an element until its end tag is
read.
-/

namespace SceneGraph.Markup

/-- An element whose end tag is still to come; its children are in backward order. -/
structure Frame where
  tag : String
  attributes : List (String × String)
  location : Location
  children : List Element

def Frame.close (f : Frame) : Element := ⟨f.tag, f.attributes, f.children.reverse, f.location⟩

def Frame.add (f : Frame) (e : Element) : Frame := { f with children := e :: f.children }

/-- How a start tag ends. -/
inductive TagEnd where
  /-- `/>`: the element is complete. -/
  | empty
  /-- `>`: content and an end tag follow. -/
  | opened
deriving DecidableEq

/-! ## Attributes -/

/-- A name, an equals sign and a value. -/
def readAttribute (c : Cursor) : Except Failure ((String × String) × Cursor) :=
  match readName c with
  | .error e => .error e
  | .ok (name, c₁) =>
    match expect "=" c₁.skipBlanks with
    | .error e => .error e
    | .ok c₂ =>
      match readValue c₂.skipBlanks with
      | .error e => .error e
      | .ok (value, c₃) => .ok ((name, value), c₃)

theorem readAttribute_length_lt {c c' : Cursor} {a : String × String}
    (h : readAttribute c = .ok (a, c')) : c'.rest.length < c.rest.length := by
  unfold readAttribute at h
  split at h
  · simp at h
  · next name c₁ h₁ =>
    split at h
    · simp at h
    · next c₂ h₂ =>
      split at h
      · simp at h
      · next value c₃ h₃ =>
        injection h with h
        injection h with _ h
        subst h
        have l₁ := readName_length_lt h₁
        have l₂ := expect_length_le h₂
        have l₃ := readValue_length_lt h₃
        have b₁ := c₁.length_skipBlanks_le
        have b₂ := c₂.length_skipBlanks_le
        omega

def Frame.addAttribute (f : Frame) (a : String × String) : Frame :=
  { f with attributes := f.attributes ++ [a] }

/-- The attributes of a start tag and its end. An attribute needs a blank in front of it and
a name of its own. -/
def readAttributes (f : Frame) (c : Cursor) : Except Failure ((Frame × TagEnd) × Cursor) :=
  match c.skipBlanks.rest with
  | [] => .error ⟨f.location, .unterminatedStartTag f.tag⟩
  | '/' :: _ =>
    match expect "/>" c.skipBlanks with
    | .error e => .error e
    | .ok c' => .ok ((f, .empty), c')
  | '>' :: _ => .ok ((f, .opened), c.skipBlanks.advance 1)
  | _ :: _ =>
    if (c.run Text.isBlank).isEmpty then c.skipBlanks.fail .noBlankBeforeAttribute
    else
      match _h : readAttribute c.skipBlanks with
      | .error e => .error e
      | .ok (a, c') =>
        if f.attributes.any (·.1 = a.1) then c.skipBlanks.fail (.repeatedAttribute a.1)
        else readAttributes (f.addAttribute a) c'
termination_by c.rest.length
decreasing_by exact Nat.lt_of_lt_of_le (readAttribute_length_lt _h) c.length_skipBlanks_le

theorem readAttributes_length_le {f : Frame} {c c' : Cursor} {r : Frame × TagEnd}
    (h : readAttributes f c = .ok (r, c')) : c'.rest.length ≤ c.rest.length := by
  fun_induction readAttributes f c with
  | case1 => simp at h
  | case2 => simp at h
  | case3 f c _ _ d hd =>
    injection h with h
    injection h with _ h
    subst h
    exact Nat.le_trans (expect_length_le hd) c.length_skipBlanks_le
  | case4 f c =>
    injection h with h
    injection h with _ h
    subst h
    exact Nat.le_trans (c.skipBlanks.length_advance_le 1) c.length_skipBlanks_le
  | case5 => simp [Cursor.fail] at h
  | case6 => simp at h
  | case7 => simp [Cursor.fail] at h
  | case8 f c _ _ _ _ _ _ _ _ hd _ ih =>
    have l₁ := ih h
    have l₂ := readAttribute_length_lt hd
    have l₃ := c.length_skipBlanks_le
    omega

/-! ## Start tags and end tags -/

/-- A start tag; its frame stands at the `<`. -/
def readStartTag (c : Cursor) : Except Failure ((Frame × TagEnd) × Cursor) :=
  match expect "<" c with
  | .error e => .error e
  | .ok c₁ =>
    match readName c₁ with
    | .error e => .error e
    | .ok (tag, c₂) => readAttributes ⟨tag, [], c.location, []⟩ c₂

theorem readStartTag_length_lt {c c' : Cursor} {r : Frame × TagEnd}
    (h : readStartTag c = .ok (r, c')) : c'.rest.length < c.rest.length := by
  unfold readStartTag at h
  split at h
  · simp at h
  · next c₁ h₁ =>
    split at h
    · simp at h
    · next tag c₂ h₂ =>
      have l₁ := expect_length_le h₁
      have l₂ := readName_length_lt h₂
      have l₃ := readAttributes_length_le h
      omega

/-- The end tag of `f`, behind its `</`. -/
def readEndTag (f : Frame) (c : Cursor) : Except Failure Cursor :=
  match readName c with
  | .error e => .error e
  | .ok (tag, c₁) =>
    if tag = f.tag then expect ">" c₁.skipBlanks else c₁.fail (.wrongEndTag tag f.tag)

theorem readEndTag_length_lt {f : Frame} {c c' : Cursor} (h : readEndTag f c = .ok c') :
    c'.rest.length < c.rest.length := by
  unfold readEndTag Cursor.fail at h
  split at h
  · simp at h
  · next tag c₁ h₁ =>
    split at h
    · have l₁ := readName_length_lt h₁
      have l₂ := expect_length_le h
      have l₃ := c₁.length_skipBlanks_le
      omega
    · simp at h

end SceneGraph.Markup
