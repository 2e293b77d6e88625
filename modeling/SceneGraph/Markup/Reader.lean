import SceneGraph.Markup.Tag

/-!
# Reading a document

A document is one element, with blanks, comments, processing instructions and document type
declarations around it and between the tags inside it. Text inside an element is refused.
The elements whose end tag is still to come are kept as a list of frames, so reading is one
loop: every turn reads one tag and leaves less text (`step_length_lt`).
-/

namespace SceneGraph.Markup

/-- What the next tag does to the innermost open element. -/
inductive Turn where
  /-- A child without content. -/
  | child (e : Element)
  | opened (f : Frame)
  | closed

/-- Reads the next tag inside `f`. -/
def step (f : Frame) (c : Cursor) : Except Failure (Turn × Cursor) :=
  match skipAsides c with
  | .error e => .error e
  | .ok c₁ =>
    if c₁.atEnd then .error ⟨f.location, .neverClosed f.tag⟩
    else if c₁.startsWith ['<', '/'] then
      match readEndTag f (c₁.advance 2) with
      | .error e => .error e
      | .ok c₂ => .ok (.closed, c₂)
    else if c₁.startsWith ['<', '!', '[', 'C', 'D', 'A', 'T', 'A', '['] then
      c₁.fail .characterData
    else if c₁.startsWith ['<'] then
      match readStartTag c₁ with
      | .error e => .error e
      | .ok ((g, .empty), c₂) => .ok (.child g.close, c₂)
      | .ok ((g, .opened), c₂) => .ok (.opened g, c₂)
    else c₁.fail (.textInside f.tag)

theorem step_length_lt {f : Frame} {c c' : Cursor} {turn : Turn} (h : step f c = .ok (turn, c')) :
    c'.rest.length < c.rest.length := by
  unfold step at h
  split at h
  · simp at h
  · next c₁ h₁ =>
    have l₁ := skipAsides_length_le h₁
    split at h
    · simp at h
    split at h
    · split at h
      · simp at h
      · next c₂ h₂ =>
        injection h with h
        injection h with _ h
        subst h
        have l₂ := readEndTag_length_lt h₂
        have l₃ := c₁.length_advance_le 2
        omega
    split at h
    · simp [Cursor.fail] at h
    split at h
    · split at h
      · simp at h
      all_goals
        next h₂ =>
        injection h with h
        injection h with _ h
        subst h
        have l₂ := readStartTag_length_lt h₂
        omega
    · simp [Cursor.fail] at h

/-- The element of the last of the frames, where the first one is innermost and `outer` holds
those around it. -/
def readContents (f : Frame) (outer : List Frame) (c : Cursor) :
    Except Failure (Element × Cursor) :=
  match _h : step f c with
  | .error e => .error e
  | .ok (.child e, c') => readContents (f.add e) outer c'
  | .ok (.opened g, c') => readContents g (f :: outer) c'
  | .ok (.closed, c') =>
    match outer with
    | [] => .ok (f.close, c')
    | g :: gs => readContents (g.add f.close) gs c'
termination_by c.rest.length
decreasing_by all_goals exact step_length_lt _h

/-- One element with all it contains. -/
def readElement (c : Cursor) : Except Failure (Element × Cursor) :=
  match readStartTag c with
  | .error e => .error e
  | .ok ((f, .empty), c') => .ok (f.close, c')
  | .ok ((f, .opened), c') => readContents f [] c'

/-- The root element of a document that holds nothing else. -/
def read (text : String) : Except Failure Element :=
  match skipAsides (Cursor.ofText text) with
  | .error e => .error e
  | .ok c =>
    if c.atEnd then c.fail .noRoot
    else
      match readElement c with
      | .error e => .error e
      | .ok (root, c') =>
        match skipAsides c' with
        | .error e => .error e
        | .ok c'' => if c''.atEnd then .ok root else c''.fail .trailingContent

end SceneGraph.Markup
