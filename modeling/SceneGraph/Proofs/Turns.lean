import SceneGraph.Proofs.Scanning

/-!
# Taking apart what was read

What a reader has accepted tells which of its parts were accepted, and where:

    a document      asides, an element, asides and the end        (read_iff)
    an element      a start tag, and contents if it is opened     (readElement_cases)
    a turn          asides, and a start tag or an end tag         (step_cases)
    a start tag     a bracket, a name and attributes              (readStartTag_cases)
    an end tag      the name of its element and a bracket         (readEndTag_cases)
    an attribute    a name, an equals sign and a value            (readAttribute_cases)

The other way round, `step_start` and `step_end` say what a turn makes of a tag.

So what start tags have and what is kept as children are added, all that is read has
(`readContents_invariant`).  Well formed names are an example (`read_wellFormed`).
-/

namespace SceneGraph.Markup

variable {f : Frame} {c c' : Cursor}

def TagEnd.turn (last : TagEnd) (g : Frame) : Turn :=
  match last with
  | .empty => .child g.close
  | .opened => .opened g

/-! ## Names and fixed texts -/

theorem expect_ok {text : String} (h : expect text c = .ok c') :
    text.toList <+: c.rest ∧ c' = c.advance text.toList.length := by
  unfold expect at h
  split at h
  · next hhere => exact ⟨Cursor.startsWith_iff.mp hhere, (Except.ok.inj h).symm⟩
  · cases h

theorem readName_ok {name : String} (h : readName c = .ok (name, c')) :
    c.run isNameChar = name.toList ∧ c' = c.skipRun isNameChar := by
  unfold readName at h
  split at h
  · cases h
  · obtain ⟨rfl, rfl⟩ := Prod.mk.inj (Except.ok.inj h)
    exact ⟨String.toList_ofList.symm, rfl⟩

/-! ## Tags -/

theorem readAttribute_cases {a : String × String} (h : readAttribute c = .ok (a, c')) :
    ∃ c₁ c₂, readName c = .ok (a.1, c₁) ∧ expect "=" c₁.skipBlanks = .ok c₂ ∧
      readValue c₂.skipBlanks = .ok (a.2, c') := by
  unfold readAttribute at h
  split at h
  · cases h
  · next name c₁ hname =>
    split at h
    · cases h
    · next c₂ hequals =>
      split at h
      · cases h
      · next value c₃ hvalue =>
        obtain ⟨rfl, rfl⟩ := Prod.mk.inj (Except.ok.inj h)
        exact ⟨c₁, c₂, hname, hequals, hvalue⟩

/-- Attributes do not change the name of their tag. -/
theorem readAttributes_tag {r : Frame × TagEnd} (h : readAttributes f c = .ok (r, c')) :
    r.1.tag = f.tag := by
  fun_induction readAttributes f c with
  | case1 | case2 | case5 | case6 | case7 => cases h
  | case3 | case4 =>
    obtain ⟨rfl, -⟩ := Prod.mk.inj (Except.ok.inj h)
    rfl
  | case8 _ _ _ _ _ _ _ _ _ _ _ _ ih => exact ih h

theorem readStartTag_cases {r : Frame × TagEnd} (h : readStartTag c = .ok (r, c')) :
    ∃ c₁ c₂ tag, expect "<" c = .ok c₁ ∧ readName c₁ = .ok (tag, c₂) ∧
      readAttributes ⟨tag, [], c.location, []⟩ c₂ = .ok (r, c') := by
  unfold readStartTag at h
  split at h
  · cases h
  · next c₁ hopening =>
    split at h
    · cases h
    · next tag c₂ hname => exact ⟨c₁, c₂, tag, hopening, hname, h⟩

theorem readEndTag_cases (h : readEndTag f c = .ok c') :
    ∃ c₁, readName c = .ok (f.tag, c₁) ∧ expect ">" c₁.skipBlanks = .ok c' := by
  unfold readEndTag at h
  split at h
  · cases h
  · next tag c₁ hname =>
    split at h
    · next htag => exact ⟨c₁, htag ▸ hname, h⟩
    · cases h

/-- A start tag is written as a bracket and the name of its element. -/
theorem readStartTag_rest {r : Frame × TagEnd} (h : readStartTag c = .ok (r, c')) :
    '<' :: r.1.tag.toList <+: c.rest := by
  obtain ⟨c₁, c₂, tag, hopening, hname, hattributes⟩ := readStartTag_cases h
  obtain ⟨⟨rest, hrest⟩, rfl⟩ := expect_ok hopening
  have hbehind : (c.advance "<".toList.length).rest = rest := Cursor.rest_behind hrest.symm
  have htag : r.1.tag = tag := readAttributes_tag hattributes
  rw [htag, ← (readName_ok hname).1, ← hrest, Cursor.run, hbehind]
  exact (List.prefix_cons_inj _).mpr (List.takeWhile_prefix _)

/-- Behind the bracket stands a name character. -/
theorem readStartTag_startsTag {r : Frame × TagEnd} (h : readStartTag c = .ok (r, c')) :
    ∃ x s, c.rest = '<' :: x :: s ∧ isNameChar x = true := by
  obtain ⟨hne, hchars⟩ := (readStartTag_hasNames h).1.tag
  obtain ⟨rest, hrest⟩ := readStartTag_rest h
  obtain ⟨x, name, hx⟩ := List.exists_cons_of_ne_nil hne
  have htag : r.1.tag.toList = x :: name := hx
  refine ⟨x, name ++ rest, ?_, hchars x (by rw [hx]; exact List.mem_cons_self)⟩
  rw [← hrest, htag]
  rfl

/-! ## Turns -/

/-- A turn skips asides and reads an end tag or a start tag. -/
theorem step_cases {turn : Turn} (h : step f c = .ok (turn, c')) :
    ∃ d, skipAsides c = .ok d ∧
      ((turn = .closed ∧ ['<', '/'] <+: d.rest ∧ readEndTag f (d.advance 2) = .ok c') ∨
        ∃ g last, turn = TagEnd.turn last g ∧ readStartTag d = .ok ((g, last), c')) := by
  unfold step at h
  split at h
  · cases h
  · next d hasides =>
    refine ⟨d, hasides, ?_⟩
    split at h
    · cases h
    split at h
    · next hclosing =>
      split at h
      · cases h
      · next c₂ hend =>
        obtain ⟨rfl, rfl⟩ := Prod.mk.inj (Except.ok.inj h)
        exact .inl ⟨rfl, Cursor.startsWith_iff.mp hclosing, hend⟩
    split at h
    · cases h
    split at h
    · split at h
      · cases h
      · next g c₂ hstart =>
        obtain ⟨rfl, rfl⟩ := Prod.mk.inj (Except.ok.inj h)
        exact .inr ⟨g, .empty, rfl, hstart⟩
      · next g c₂ hstart =>
        obtain ⟨rfl, rfl⟩ := Prod.mk.inj (Except.ok.inj h)
        exact .inr ⟨g, .opened, rfl, hstart⟩
    · cases h

theorem step_start {d : Cursor} {g : Frame} {last : TagEnd} (hasides : skipAsides c = .ok d)
    (hstart : readStartTag d = .ok ((g, last), c')) : step f c = .ok (last.turn g, c') := by
  obtain ⟨x, s, hrest, hx⟩ := readStartTag_startsTag hstart
  have hslash : x ≠ '/' := ne_of_isNameChar hx (by decide)
  have hbang : x ≠ '!' := ne_of_isNameChar hx (by decide)
  rw [step, hasides]
  simp only [Cursor.atEnd, Cursor.startsWith, hrest, hstart]
  rw [if_neg (by simp), if_neg (by simp [hslash.symm]), if_neg (by simp [hbang.symm]),
    if_pos (by simp)]
  cases last <;> rfl

theorem step_end {d : Cursor} (hasides : skipAsides c = .ok d) (hhere : ['<', '/'] <+: d.rest)
    (hend : readEndTag f (d.advance 2) = .ok c') : step f c = .ok (.closed, c') := by
  obtain ⟨s, hrest⟩ := hhere
  rw [step, hasides]
  simp only [Cursor.atEnd, Cursor.startsWith, ← hrest, hend]
  rw [if_neg (by simp), if_pos (by simp)]

/-! ## Elements and documents -/

theorem readElement_cases {e : Element} (h : readElement c = .ok (e, c')) :
    ∃ f last d, readStartTag c = .ok ((f, last), d) ∧
      ((last = .empty ∧ e = f.close ∧ c' = d) ∨
        (last = .opened ∧ readContents f [] d = .ok (e, c'))) := by
  unfold readElement at h
  split at h
  · cases h
  · next f d hstart =>
    obtain ⟨rfl, rfl⟩ := Prod.mk.inj (Except.ok.inj h)
    exact ⟨f, .empty, d, hstart, .inl ⟨rfl, rfl, rfl⟩⟩
  · next f d hstart => exact ⟨f, .opened, d, hstart, .inr ⟨rfl, h⟩⟩

/-- A document is one element, with asides around it. -/
theorem read_iff {text : String} {root : Element} : read text = .ok root ↔
    ∃ c c' c'', skipAsides (Cursor.ofText text) = .ok c ∧ readElement c = .ok (root, c') ∧
      skipAsides c' = .ok c'' ∧ c''.rest = [] := by
  constructor
  · intro h
    unfold read at h
    split at h
    · cases h
    · next c hbefore =>
      split at h
      · cases h
      split at h
      · cases h
      · next e c' helement =>
        split at h
        · cases h
        · next c'' hbehind =>
          split at h
          · next hend =>
            obtain rfl := Except.ok.inj h
            exact ⟨c, c', c'', hbefore, helement, hbehind, List.isEmpty_iff.mp hend⟩
          · cases h
  · rintro ⟨c, c', c'', hbefore, helement, hbehind, hend⟩
    obtain ⟨f, last, d, hstart, -⟩ := readElement_cases helement
    obtain ⟨x, s, hrest, -⟩ := readStartTag_startsTag hstart
    simp [read, hbefore, Cursor.atEnd, hrest, helement, hbehind, hend]

/-! ## What is kept while an element is read -/

/-- What a turn starts, as far as it was read. -/
def Turn.started : Turn → Option Element
  | .child e => some e
  | .opened g => some g.close
  | .closed => none

theorem started_turn (last : TagEnd) (g : Frame) : (last.turn g).started = some g.close := by
  cases last <;> rfl

/-- What the start tags of an element have that begin where `R` holds, and what adding a child
keeps, the element has. -/
theorem readContents_invariant {P : Element → Prop} {R : Cursor → Prop}
    (hadd : ∀ {g : Frame} {d : Element}, P g.close → P d → P (g.add d).close)
    (hstep : ∀ {g : Frame} {c c' : Cursor} {turn : Turn}, R c → step g c = .ok (turn, c') →
      R c' ∧ ∀ d ∈ turn.started, P d)
    {f : Frame} {outer : List Frame} {c c' : Cursor} {e : Element}
    (h : readContents f outer c = .ok (e, c')) (hc : R c) (hf : P f.close)
    (houter : ∀ g ∈ outer, P g.close) : P e := by
  fun_induction readContents f outer c with
  | case1 => cases h
  | case2 f outer c d c₁ hturn ih =>
    obtain ⟨hc₁, hd⟩ := hstep hc hturn
    exact ih h hc₁ (hadd hf (hd d rfl)) houter
  | case3 f outer c g c₁ hturn ih =>
    obtain ⟨hc₁, hg⟩ := hstep hc hturn
    exact ih h hc₁ (hg g.close rfl) (List.forall_mem_cons.mpr ⟨hf, houter⟩)
  | case4 f c c₁ _ =>
    obtain ⟨rfl, -⟩ := Prod.mk.inj (Except.ok.inj h)
    exact hf
  | case5 f c c₁ hturn g gs ih =>
    obtain ⟨hg, hgs⟩ := List.forall_mem_cons.mp houter
    exact ih h (hstep hc hturn).1 (hadd hg hf) hgs

theorem step_wellFormed {turn : Turn} (h : step f c = .ok (turn, c')) :
    ∀ e ∈ turn.started, e.WellFormed := by
  obtain ⟨d, -, ⟨rfl, -, -⟩ | ⟨g, last, rfl, hstart⟩⟩ := step_cases h
  · rintro e ⟨⟩
  · rw [started_turn]
    rintro e ⟨⟩
    exact readStartTag_wellFormed hstart

theorem readElement_wellFormed {e : Element} (h : readElement c = .ok (e, c')) :
    e.WellFormed := by
  obtain ⟨f, last, d, hstart, ⟨-, rfl, -⟩ | ⟨-, hcontents⟩⟩ := readElement_cases h
  · exact readStartTag_wellFormed hstart
  · exact readContents_invariant (R := fun _ => True) Frame.add_wellFormed
      (fun _ hstep => ⟨trivial, step_wellFormed hstep⟩) hcontents trivial
      (readStartTag_wellFormed hstart) (List.forall_mem_nil _)

/-- Every document that is accepted has a well formed root. -/
theorem read_wellFormed {text : String} {root : Element} (h : read text = .ok root) :
    root.WellFormed := by
  obtain ⟨c, c', c'', -, helement, -, -⟩ := read_iff.mp h
  exact readElement_wellFormed helement

end SceneGraph.Markup
