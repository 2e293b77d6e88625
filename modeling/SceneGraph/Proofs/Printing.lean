import SceneGraph.Markup.Tag

/-!
# Writing elements down

`Element.print` is the plain text of an element, with double quotes around values and no blanks
but those in front of attributes.  It is the concatenation of the tags of the element
(`print_eq_flatten`), so what stands between neighbouring tags can be told by a gap for each
tag: `Element.printWith` puts the fillers of a gap in front of the tag with its number, and
those of one more gap behind the last tag.
-/

namespace SceneGraph.Markup

/-! ## Tags -/

/-- A character of an attribute value. -/
def escape (c : Char) : List Char :=
  if c = '&' then ['&', 'a', 'm', 'p', ';']
  else if c = '<' then ['&', 'l', 't', ';']
  else if c = '"' then ['&', 'q', 'u', 'o', 't', ';']
  else [c]

def printValue (value : String) : List Char := '"' :: (value.toList.flatMap escape ++ ['"'])

def printAttribute (a : String × String) : List Char := ' ' :: (a.1.toList ++ '=' :: printValue a.2)

def TagEnd.print : TagEnd → List Char
  | .empty => ['/', '>']
  | .opened => ['>']

def printStartTag (tag : String) (attributes : List (String × String)) (last : TagEnd) :
    List Char :=
  '<' :: (tag.toList ++ (attributes.flatMap printAttribute ++ last.print))

def printEndTag (tag : String) : List Char := '<' :: '/' :: (tag.toList ++ ['>'])

namespace Element

mutual

def print : Element → List Char
  | ⟨tag, attributes, children, _⟩ =>
    if children.isEmpty then printStartTag tag attributes .empty
    else printStartTag tag attributes .opened ++ printAll children ++ printEndTag tag

def printAll : List Element → List Char
  | [] => []
  | e :: es => e.print ++ printAll es

end

mutual

/-- The tags of an element, in the order of the text. -/
def tags : Element → List (List Char)
  | ⟨tag, attributes, children, _⟩ =>
    if children.isEmpty then [printStartTag tag attributes .empty]
    else printStartTag tag attributes .opened :: (tagsAll children ++ [printEndTag tag])

def tagsAll : List Element → List (List Char)
  | [] => []
  | e :: es => e.tags ++ tagsAll es

end

theorem tags_empty (tag : String) (attributes : List (String × String)) (l : Location) :
    tags ⟨tag, attributes, [], l⟩ = [printStartTag tag attributes .empty] := rfl

theorem tags_opened (tag : String) (attributes : List (String × String)) {children : List Element}
    (h : children ≠ []) (l : Location) :
    tags ⟨tag, attributes, children, l⟩ =
      printStartTag tag attributes .opened :: (tagsAll children ++ [printEndTag tag]) := by
  rw [tags, if_neg (by simpa using h)]

mutual

theorem print_eq_flatten : ∀ e : Element, e.print = e.tags.flatten
  | ⟨tag, attributes, children, location⟩ => by
    rw [print, tags]
    split
    · simp
    · rw [printAll_eq_flatten children]
      simp

theorem printAll_eq_flatten : ∀ es : List Element, printAll es = (tagsAll es).flatten
  | [] => rfl
  | e :: es => by
    rw [printAll, tagsAll, List.flatten_append, print_eq_flatten e, printAll_eq_flatten es]

end

end Element

/-! ## What stands between tags -/

/-- Something that may be put between tags. -/
inductive Filler where
  | blank (c : Char)
  | comment (body : List Char)
  | instruction (body : List Char)

namespace Filler

def print : Filler → List Char
  | blank c => [c]
  | comment body => Aside.comment.opening ++ body ++ Aside.comment.closing
  | instruction body => Aside.instruction.opening ++ body ++ Aside.instruction.closing

/-- A blank is white space, no comment holds two hyphens or ends in one, and no processing
instruction holds its own end. -/
def Allowed : Filler → Prop
  | blank c => Text.isBlank c = true
  | comment body => ¬ ['-', '-'] <:+: body ∧ ¬ ['-'] <:+ body
  | instruction body => ¬ ['?', '>'] <:+: body

/-- The opening text does not form the closing text together with the start of the body. -/
def Clear : Filler → Prop
  | blank _ => True
  | comment body => ¬ ['>'] <+: body ∧ ¬ ['-', '>'] <+: body
  | instruction body => ¬ ['>'] <+: body

instance : (x : Filler) → Decidable x.Allowed
  | blank c => inferInstanceAs (Decidable (Text.isBlank c = true))
  | comment body => inferInstanceAs (Decidable (¬ ['-', '-'] <:+: body ∧ ¬ ['-'] <:+ body))
  | instruction body => inferInstanceAs (Decidable (¬ ['?', '>'] <:+: body))

instance : (x : Filler) → Decidable x.Clear
  | blank _ => inferInstanceAs (Decidable True)
  | comment body => inferInstanceAs (Decidable (¬ ['>'] <+: body ∧ ¬ ['-', '>'] <+: body))
  | instruction body => inferInstanceAs (Decidable (¬ ['>'] <+: body))

end Filler

def printFillers (xs : List Filler) : List Char := xs.flatMap Filler.print

/-- Some tags, counted from `i`, each behind the fillers of its gap. -/
def spread (gap : Nat → List Filler) : Nat → List (List Char) → List Char
  | _, [] => []
  | i, tag :: tags => printFillers (gap i) ++ (tag ++ spread gap (i + 1) tags)

/-- The text of an element with fillers in the gaps before, between and behind its tags. -/
def Element.printWith (gap : Nat → List Filler) (e : Element) : List Char :=
  spread gap 0 e.tags ++ printFillers (gap e.tags.length)

theorem spread_append (gap : Nat → List Filler) (i : Nat) (ts us : List (List Char)) :
    spread gap i (ts ++ us) = spread gap i ts ++ spread gap (i + ts.length) us := by
  induction ts generalizing i with
  | nil => rfl
  | cons t ts ih =>
    rw [List.cons_append, spread, ih, spread, List.length_cons, Nat.add_assoc, Nat.add_comm 1]
    simp only [List.append_assoc]

theorem spread_nothing (i : Nat) (ts : List (List Char)) : spread (fun _ => []) i ts = ts.flatten := by
  induction ts generalizing i with
  | nil => rfl
  | cons t ts ih => simp [spread, printFillers, ih]

/-- Without fillers the text is the plain one. -/
theorem Element.printWith_nothing (e : Element) : e.printWith (fun _ => []) = e.print := by
  rw [printWith, spread_nothing, print_eq_flatten]
  simp [printFillers]

end SceneGraph.Markup
