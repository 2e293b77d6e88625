import SceneGraph.Proofs.Asides
import SceneGraph.Proofs.Turns

/-!
# Reading what was written

Reading takes one tag after another, so the text of an element is followed tag by tag:
`readContents_tags` says what becomes of the tags of a whole element inside an open one, for any
fillers between them, by recursion over the element.

    read (print e) = e up to positions                           (read_print)
    read (print e with clear fillers) = read (print e), likewise   (read_fillers)

Positions depend on the text, so elements are compared without them (`Element.bare`).
-/

namespace SceneGraph.Markup

open Text

namespace Element

mutual

/-- An element without its positions. -/
def bare : Element → Element
  | ⟨tag, attributes, children, _⟩ => ⟨tag, attributes, bareAll children, Location.start⟩

def bareAll : List Element → List Element
  | [] => []
  | e :: es => e.bare :: bareAll es

end

theorem bareAll_eq (es : List Element) : bareAll es = es.map bare := by
  induction es with
  | nil => rfl
  | cons e es ih => rw [bareAll, ih, List.map_cons]

theorem bare_congr {tag : String} {attributes : List (String × String)} {es ds : List Element}
    (h : es.map bare = ds.map bare) (l m : Location) :
    bare ⟨tag, attributes, es, l⟩ = bare ⟨tag, attributes, ds, m⟩ := by
  rw [bare, bare, bareAll_eq, bareAll_eq, h]

end Element

/-! ## One turn -/

section

variable {f : Frame} {outer : List Frame} {c c' : Cursor} {r : List Char} {xs : List Filler}

/-- Behind the bracket of a start tag stands a name character, so it is no other markup. -/
theorem startsTag_startTag {tag : String} (htag : IsName tag)
    (attributes : List (String × String)) (last : TagEnd) (r : List Char) :
    StartsTag (printStartTag tag attributes last ++ r) := by
  obtain ⟨x, s, hx⟩ := List.exists_cons_of_ne_nil htag.1
  have hname : isNameChar x = true := htag.2 x (by simp [hx])
  exact .inr ⟨x, s ++ (attributes.flatMap printAttribute ++ last.print ++ r),
    by simp [printStartTag, hx], ne_of_isNameChar hname (by decide),
    ne_of_isNameChar hname (by decide)⟩

theorem startsTag_endTag (tag : String) (r : List Char) : StartsTag (printEndTag tag ++ r) :=
  .inr ⟨'/', tag.toList ++ ['>'] ++ r, rfl, by decide, by decide⟩

/-- The frame that a start tag opens. -/
def Frame.start (tag : String) (attributes : List (String × String)) (l : Location) : Frame :=
  ⟨tag, attributes, l, []⟩

theorem step_startTag {tag : String} {attributes : List (String × String)} {last : TagEnd}
    (hxs : ∀ x ∈ xs, x.Allowed ∧ x.Clear) (htag : IsName tag)
    (hnames : ∀ a ∈ attributes, IsName a.1) (hdistinct : (attributes.map (·.1)).Nodup)
    (h : c.rest = printFillers xs ++ (printStartTag tag attributes last ++ r)) :
    ∃ l, step f c = .ok (last.turn (Frame.start tag attributes l),
      c.advance (printFillers xs ++ printStartTag tag attributes last).length) := by
  have hskip := skipAsides_fillers xs (fun x hx => (hxs x hx).1) (fun x hx => (hxs x hx).2) h
    (startsTag_startTag htag attributes last r)
  have hstart := readStartTag_print htag hnames hdistinct (Cursor.rest_behind h)
  rw [Cursor.advance_append] at hstart
  exact ⟨(c.advance (printFillers xs).length).location, step_start hskip hstart⟩

theorem step_endTag (hxs : ∀ x ∈ xs, x.Allowed ∧ x.Clear) (htag : IsName f.tag)
    (h : c.rest = printFillers xs ++ (printEndTag f.tag ++ r)) :
    step f c = .ok (.closed, c.advance (printFillers xs ++ printEndTag f.tag).length) := by
  have hskip := skipAsides_fillers xs (fun x hx => (hxs x hx).1) (fun x hx => (hxs x hx).2) h
    (startsTag_endTag f.tag r)
  have hbehind := Cursor.rest_behind h
  have hname : (c.advance (printFillers xs).length).rest =
      ['<', '/'] ++ (f.tag.toList ++ ['>'] ++ r) := by
    rw [hbehind, printEndTag]
    simp
  have hend := readEndTag_print (f := f) htag (Cursor.rest_behind hname)
  have hwhole : ((c.advance (printFillers xs).length).advance ['<', '/'].length).advance
      (f.tag.toList ++ ['>']).length = c.advance (printFillers xs ++ printEndTag f.tag).length := by
    rw [Cursor.advance_append, Cursor.advance_append]
    rfl
  rw [hwhole] at hend
  exact step_end hskip ⟨_, hname.symm⟩ hend

theorem readContents_child {e : Element} (h : step f c = .ok (.child e, c')) :
    readContents f outer c = readContents (f.add e) outer c' := by
  rw [readContents]
  split <;> simp_all

theorem readContents_opened {g : Frame} (h : step f c = .ok (.opened g, c')) :
    readContents f outer c = readContents g (f :: outer) c' := by
  rw [readContents]
  split <;> simp_all

theorem readContents_closed {g : Frame} (h : step f c = .ok (.closed, c')) :
    readContents f (g :: outer) c = readContents (g.add f.close) outer c' := by
  rw [readContents]
  split <;> simp_all

theorem readContents_done (h : step f c = .ok (.closed, c')) :
    readContents f [] c = .ok (f.close, c') := by
  rw [readContents]
  split <;> simp_all

end

/-! ## All tags of an element -/

def Frame.addAll (f : Frame) (es : List Element) : Frame :=
  { f with children := es.reverse ++ f.children }

theorem Frame.addAll_cons (f : Frame) (e : Element) (es : List Element) :
    f.addAll (e :: es) = (f.add e).addAll es := by
  simp [addAll, add]

section

variable {gap : Nat → List Filler} (hgap : ∀ i, ∀ x ∈ gap i, x.Allowed ∧ x.Clear)

include hgap

mutual

/-- The tags of an element, inside an open element, add the element to it. -/
theorem readContents_tags : ∀ (e : Element) (f : Frame) (outer : List Frame) (c : Cursor)
    (i : Nat) (r : List Char), e.WellFormed → c.rest = spread gap i e.tags ++ r →
    ∃ e', e'.bare = e.bare ∧ readContents f outer c =
      readContents (f.add e') outer (c.advance (spread gap i e.tags).length)
  | ⟨tag, attributes, children, location⟩, f, outer, c, i, r, he, h => by
    obtain ⟨⟨htag, hnames, hdistinct⟩, hchildren⟩ := Element.wellFormed_iff.mp he
    by_cases hempty : children = []
    · subst hempty
      simp only [Element.tags_empty, spread, List.append_nil] at h ⊢
      rw [List.append_assoc] at h
      obtain ⟨l, hstep⟩ := step_startTag (f := f) (hgap i) htag hnames hdistinct h
      exact ⟨(Frame.start tag attributes l).close, rfl, readContents_child hstep⟩
    · simp only [Element.tags_opened tag attributes hempty, spread, List.append_assoc] at h ⊢
      obtain ⟨l, hstep⟩ := step_startTag (f := f) (hgap i) htag hnames hdistinct h
      rw [← List.append_assoc] at h
      obtain ⟨ds, hds, c₂, hinside, hend⟩ := readContents_inside children
        (Frame.start tag attributes l) (f :: outer) _ (i + 1) r hchildren htag
        (Cursor.rest_behind h)
      refine ⟨((Frame.start tag attributes l).addAll ds).close, ?_, ?_⟩
      · simpa [Frame.addAll, Frame.start, Frame.close] using Element.bare_congr hds l location
      · rw [readContents_opened hstep, hinside, readContents_closed hend, Cursor.advance_append,
          List.append_assoc]
        rfl

/-- The tags of elements inside an open element, up to its end tag. -/
theorem readContents_inside : ∀ (es : List Element) (f : Frame) (outer : List Frame)
    (c : Cursor) (i : Nat) (r : List Char), (∀ e ∈ es, e.WellFormed) → IsName f.tag →
    c.rest = spread gap i (Element.tagsAll es ++ [printEndTag f.tag]) ++ r →
    ∃ ds, ds.map Element.bare = es.map Element.bare ∧ ∃ c',
      readContents f outer c = readContents (f.addAll ds) outer c' ∧
      step (f.addAll ds) c' = .ok (.closed,
        c.advance (spread gap i (Element.tagsAll es ++ [printEndTag f.tag])).length)
  | [], f, outer, c, i, r, _, htag, h => by
    simp only [Element.tagsAll, List.nil_append, spread, List.append_nil] at h ⊢
    rw [List.append_assoc] at h
    exact ⟨[], rfl, c, rfl, step_endTag (hgap i) htag h⟩
  | e :: es, f, outer, c, i, r, hes, htag, h => by
    obtain ⟨he, hes⟩ := List.forall_mem_cons.mp hes
    rw [Element.tagsAll, List.append_assoc, spread_append] at h ⊢
    rw [List.append_assoc] at h
    obtain ⟨e', he', hfirst⟩ := readContents_tags e f outer c i _ he h
    obtain ⟨ds, hds, c', hrest, hend⟩ := readContents_inside es (f.add e') outer _
      (i + e.tags.length) r hes htag (Cursor.rest_behind h)
    refine ⟨e' :: ds, by simp [he', hds], c', ?_, ?_⟩
    · rw [hfirst, hrest, Frame.addAll_cons]
    · rw [Frame.addAll_cons, hend, Cursor.advance_append]
      rfl

end

/-- An element is read back from its tags when nothing stands in front of the first one. -/
theorem readElement_tags {e : Element} {tag : List Char} {tags : List (List Char)} {c : Cursor}
    {r : List Char} (he : e.WellFormed) (htags : e.tags = tag :: tags) (i : Nat)
    (h : c.rest = tag ++ (spread gap i tags ++ r)) :
    ∃ e', e'.bare = e.bare ∧
      readElement c = .ok (e', c.advance (tag ++ spread gap i tags).length) := by
  obtain ⟨name, attributes, children, location⟩ := e
  obtain ⟨⟨hname, hnames, hdistinct⟩, hchildren⟩ := Element.wellFormed_iff.mp he
  by_cases hempty : children = []
  · subst hempty
    obtain ⟨rfl, rfl⟩ := List.cons.inj htags
    have hstart := readStartTag_print hname hnames hdistinct h
    refine ⟨⟨name, attributes, [], c.location⟩, rfl, ?_⟩
    rw [readElement, hstart]
    simp [spread, Frame.close]
  · rw [Element.tags_opened name attributes hempty] at htags
    obtain ⟨rfl, rfl⟩ := List.cons.inj htags
    have hstart := readStartTag_print hname hnames hdistinct h
    obtain ⟨ds, hds, c', hinside, hend⟩ := readContents_inside hgap children
      (Frame.start name attributes c.location) [] _ i r hchildren hname (Cursor.rest_behind h)
    refine ⟨((Frame.start name attributes c.location).addAll ds).close, ?_, ?_⟩
    · simpa [Frame.addAll, Frame.start, Frame.close] using Element.bare_congr hds c.location location
    · rw [readElement, hstart]
      simp only
      rw [← Frame.start, hinside, readContents_done hend, Cursor.advance_append]
      rfl

end

/-! ## Documents -/

theorem not_bom_of_fillers {xs : List Filler} (hxs : ∀ x ∈ xs, x.Allowed) {r : List Char}
    (hr : Stops (· == '\ufeff') r) : Stops (· == '\ufeff') (printFillers xs ++ r) := by
  cases xs with
  | nil => exact hr
  | cons x xs =>
    cases x with
    | blank x =>
      apply stops_cons
      have hblank : isBlank x = true := hxs _ List.mem_cons_self
      rw [beq_eq_false_iff_ne]
      rintro rfl
      exact absurd hblank (by decide)
    | comment body => exact stops_cons (by decide)
    | instruction body => exact stops_cons (by decide)

theorem ofText_of_not_bom {cs : List Char} (h : Stops (· == '\ufeff') cs) :
    Cursor.ofText (String.ofList cs) = ⟨cs, Location.start⟩ := by
  unfold Cursor.ofText
  rw [String.toList_ofList]
  split
  · exact absurd (h _ rfl) (by decide)
  · rfl

/-- The tags of an element begin with its start tag. -/
theorem Element.tags_eq_cons (e : Element) :
    ∃ last tags, e.tags = printStartTag e.tag e.attributes last :: tags := by
  obtain ⟨tag, attributes, children, location⟩ := e
  rw [tags]
  split
  · exact ⟨_, _, rfl⟩
  · exact ⟨_, _, rfl⟩

/-- A well formed element is read back, whatever clear fillers stand between its tags. -/
theorem read_printWith {gap : Nat → List Filler} (hgap : ∀ i, ∀ x ∈ gap i, x.Allowed ∧ x.Clear)
    {e : Element} (he : e.WellFormed) :
    (read (String.ofList (e.printWith gap))).map Element.bare = .ok e.bare := by
  obtain ⟨last, tags, htags⟩ := e.tags_eq_cons
  have hallowed : ∀ i, ∀ x ∈ gap i, x.Allowed := fun i x hx => (hgap i x hx).1
  have hclear : ∀ i, ∀ x ∈ gap i, x.Clear := fun i x hx => (hgap i x hx).2
  have hname : IsName e.tag := (Element.wellFormed_iff.mp he).1.tag
  have htext : e.printWith gap = printFillers (gap 0) ++
      (printStartTag e.tag e.attributes last ++
        (spread gap 1 tags ++ printFillers (gap e.tags.length))) := by
    rw [Element.printWith, htags, spread]
    simp only [List.append_assoc]
  have hcursor : Cursor.ofText (String.ofList (e.printWith gap)) =
      ⟨e.printWith gap, Location.start⟩ := by
    apply ofText_of_not_bom
    rw [htext]
    exact not_bom_of_fillers (hallowed 0) (stops_cons (by decide))
  have hstart := skipAsides_fillers (gap 0) (hallowed 0) (hclear 0)
    (c := ⟨e.printWith gap, Location.start⟩) htext (startsTag_startTag hname _ _ _)
  have hbehind := Cursor.rest_behind (c := ⟨e.printWith gap, Location.start⟩) htext
  obtain ⟨e', hbare, helement⟩ := readElement_tags hgap he htags 1 hbehind
  have hend := Cursor.rest_behind (a := printStartTag e.tag e.attributes last ++ spread gap 1 tags)
    (r := printFillers (gap e.tags.length) ++ []) (by rw [hbehind]; simp)
  have hlast := skipAsides_fillers _ (hallowed _) (hclear _) hend (.inl rfl)
  have hread : read (String.ofList (e.printWith gap)) = .ok e' := by
    rw [read, hcursor, hstart]
    simp only
    rw [if_neg (by rw [Cursor.atEnd, hbehind]; simp [printStartTag]), helement]
    simp only [hlast]
    rw [if_pos]
    rw [Cursor.atEnd, Cursor.rest_behind hend]
    rfl
  rw [hread, Except.map, hbare]

theorem read_plain {e : Element} (he : e.WellFormed) :
    (read (String.ofList e.print)).map Element.bare = .ok e.bare := by
  rw [← e.printWith_nothing]
  exact read_printWith (fun _ x hx => by cases hx) he

/-! ## Top theorems -/

/-- What is written is read back, and every document that is accepted can be written so. -/
theorem read_print :
    (∀ e : Element, e.WellFormed →
      (read (String.ofList e.print)).map Element.bare = .ok e.bare) ∧
    ∀ (source : String) (e : Element), read source = .ok e →
      e.WellFormed ∧ (read (String.ofList e.print)).map Element.bare = .ok e.bare :=
  ⟨fun _ he => read_plain he,
    fun _ _ h => ⟨read_wellFormed h, read_plain (read_wellFormed h)⟩⟩

/-- An element inside another one, with a value of special characters. -/
def quoted : Element :=
  ⟨"a", [("x", "1 < \"2\" && '3' > ;\n")], [⟨"b.c", [], [], Location.start⟩], Location.start⟩

theorem read_print_quoted :
    (quoted.WellFormed ∧
      (read (String.ofList quoted.print)).map Element.bare = .ok quoted.bare) ∧
    ∃ e, read "<!-- x --><a x = '&#65;&quot;'>\n<b/></a >" = .ok e ∧
      e.attributes = [("x", "A\"")] ∧ e.WellFormed ∧
      (read (String.ofList e.print)).map Element.bare = .ok e.bare := by
  have hquoted : quoted.WellFormed := by decide +kernel
  have hread : (match read "<!-- x --><a x = '&#65;&quot;'>\n<b/></a >" with
      | .ok e => e.attributes == [("x", "A\"")]
      | .error _ => false) = true := by
    decide +kernel
  refine ⟨⟨hquoted, read_print.1 quoted hquoted⟩, ?_⟩
  split at hread
  · next e he => exact ⟨e, he, by simpa using hread, read_print.2 _ e he⟩
  · cases hread

/-- Clear fillers between the tags change nothing but positions. -/
theorem read_fillers (gap : Nat → List Filler) (hallowed : ∀ i, ∀ x ∈ gap i, x.Allowed)
    (hclear : ∀ i, ∀ x ∈ gap i, x.Clear) (e : Element) (he : e.WellFormed) :
    (read (String.ofList (e.printWith gap))).map Element.bare =
        (read (String.ofList e.print)).map Element.bare ∧
      (read (String.ofList (e.printWith gap))).map Element.bare = .ok e.bare := by
  have hwith := read_printWith (fun i x hx => ⟨hallowed i x hx, hclear i x hx⟩) he
  exact ⟨hwith.trans (read_plain he).symm, hwith⟩

/-- Fillers that look like other markup. -/
def decoys : Nat → List Filler
  | 0 => [.instruction "xml version='1.0'?".toList, .comment "".toList, .blank '\n']
  | 1 => [.blank '\u2003', .comment "<b></a>?>- ->".toList]
  | _ => [.instruction "<!-- -->".toList, .comment " x='<?'".toList]

theorem read_fillers_decoys :
    (∀ i, ∀ x ∈ decoys i, x.Allowed) ∧ (∀ i, ∀ x ∈ decoys i, x.Clear) ∧ quoted.WellFormed ∧
      (read (String.ofList (quoted.printWith decoys))).map Element.bare =
        (read (String.ofList quoted.print)).map Element.bare ∧
      (read (String.ofList (quoted.printWith decoys))).map Element.bare = .ok quoted.bare := by
  have hallowed : ∀ i, ∀ x ∈ decoys i, x.Allowed := by
    intro i
    match i with
    | 0 => decide +kernel
    | 1 => decide +kernel
    | _ + 2 =>
      show ∀ x ∈ decoys 2, x.Allowed
      decide +kernel
  have hclear : ∀ i, ∀ x ∈ decoys i, x.Clear := by
    intro i
    match i with
    | 0 => decide +kernel
    | 1 => decide +kernel
    | _ + 2 =>
      show ∀ x ∈ decoys 2, x.Clear
      decide +kernel
  have hquoted : quoted.WellFormed := by decide +kernel
  exact ⟨hallowed, hclear, hquoted, read_fillers decoys hallowed hclear quoted hquoted⟩

/-- A comment ends in front of its body when the body starts with a greater sign. -/
theorem not_read_fillers :
    (Filler.comment ['>']).Allowed ∧
      (⟨"a", [], [], Location.start⟩ : Element).WellFormed ∧
      Element.printWith (fun i => if i = 0 then [.comment ['>']] else [])
        ⟨"a", [], [], Location.start⟩ = "<!-->--><a/>".toList ∧
      read "<!-->--><a/>" = .error ⟨⟨1, 6⟩, .expected "<"⟩ := by
  refine ⟨by decide, by decide +kernel, by decide +kernel, ?_⟩
  have hread : (match read "<!-->--><a/>" with
      | .ok _ => false
      | .error f => f == ⟨⟨1, 6⟩, .expected "<"⟩) = true := by
    decide +kernel
  split at hread
  · cases hread
  · next f hf => rw [hf, eq_of_beq hread]

end SceneGraph.Markup
