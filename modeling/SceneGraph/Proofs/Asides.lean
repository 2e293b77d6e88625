import SceneGraph.Proofs.Scanning

/-!
# Skipping what stands between tags

`skipAsides` looks for the end of an aside from its first character on.  The end that it finds
is the one that was written, unless the opening text and the start of the body make up another
one before it; that is what `Filler.Clear` excludes.  So `skipAsides` stands in front of the
next tag after any number of clear fillers (`skipAsides_fillers`).
-/

namespace SceneGraph.Text

/-- A text that occurs nowhere from the positions of `a` is looked for behind `a`. -/
theorem indexOf?_append {text a cs : List Char}
    (h : ∀ s, s <:+ a → s ≠ [] → ¬ text <+: s ++ cs) :
    indexOf? text (a ++ cs) = (indexOf? text cs).map (· + a.length) := by
  induction a with
  | nil => simp
  | cons x a ih =>
    have hhere : ¬ text <+: x :: (a ++ cs) := h (x :: a) List.suffix_rfl (List.cons_ne_nil x a)
    have hrest := ih fun s hs => h s (hs.trans (List.suffix_cons x a))
    rw [List.cons_append, indexOf?, if_neg (by rwa [List.isPrefixOf_iff_prefix]), hrest,
      Option.map_map, List.length_cons]
    rfl

theorem indexOf?_prefix {text : List Char} (hne : text ≠ []) (r : List Char) :
    indexOf? text (text ++ r) = some 0 := by
  cases text with
  | nil => exact absurd rfl hne
  | cons x text =>
    rw [List.cons_append, indexOf?, if_pos]
    rw [List.isPrefixOf_iff_prefix, ← List.cons_append]
    exact List.prefix_append _ _

end SceneGraph.Text

namespace SceneGraph.Markup

open Text

/-! ## Ends of asides -/

/-- The closing text of an aside is found where it was written, if it starts nowhere before. -/
theorem indexOf?_closing (a : Aside) {body r : List Char}
    (hopening : ∀ s, s <:+ a.opening → s ≠ [] →
      ¬ a.closing <+: s ++ (body ++ (a.closing ++ r)))
    (hbody : ∀ s, s <:+ body → s ≠ [] → ¬ a.closing <+: s ++ (a.closing ++ r)) :
    indexOf? a.closing (a.opening ++ (body ++ (a.closing ++ r))) =
      some (a.opening ++ body).length := by
  have hne : a.closing ≠ [] := List.length_pos_iff.mp a.closing_length_pos
  rw [indexOf?_append hopening, indexOf?_append hbody, indexOf?_prefix hne]
  simp [Nat.add_comm]

theorem indexOf?_comment {body : List Char} (hallowed : (Filler.comment body).Allowed)
    (hclear : (Filler.comment body).Clear) (r : List Char) :
    indexOf? Aside.comment.closing
        (Aside.comment.opening ++ (body ++ (Aside.comment.closing ++ r))) =
      some (Aside.comment.opening ++ body).length := by
  obtain ⟨hhyphens, hlast⟩ := hallowed
  obtain ⟨hgreater, harrow⟩ := hclear
  apply indexOf?_closing
  · intro s hs _ hprefix
    -- the hyphens of the opening text, together with the start of the body
    simp only [Aside.opening, Aside.closing, List.suffix_cons_iff, List.suffix_nil] at hs hprefix
    rcases hs with rfl | rfl | rfl | rfl | rfl
    · simp [List.cons_prefix_cons] at hprefix
    · simp [List.cons_prefix_cons] at hprefix
    · match body with
      | [] => simp [List.cons_prefix_cons] at hprefix
      | x :: body =>
        obtain rfl : '>' = x := by simpa [List.cons_prefix_cons] using hprefix
        exact hgreater (List.cons_prefix_cons.mpr ⟨rfl, List.nil_prefix⟩)
    · match body with
      | [] => simp [List.cons_prefix_cons] at hprefix
      | [x] =>
        obtain rfl : '-' = x := by
          simp only [List.cons_append, List.nil_append, List.cons_prefix_cons] at hprefix
          exact hprefix.2.1
        exact hlast List.suffix_rfl
      | x :: y :: body =>
        simp only [List.cons_append, List.nil_append, List.cons_prefix_cons] at hprefix
        obtain ⟨-, rfl, rfl, -⟩ := hprefix
        exact harrow (by simp [List.cons_prefix_cons])
    · contradiction
  · intro s hs hne hprefix
    match s with
    | [] => exact hne rfl
    | [x] =>
      simp only [Aside.closing, List.cons_append, List.cons_prefix_cons] at hprefix
      obtain ⟨rfl, -⟩ := hprefix
      exact hlast hs
    | x :: y :: s =>
      simp only [Aside.closing, List.cons_append, List.cons_prefix_cons] at hprefix
      obtain ⟨rfl, rfl, -⟩ := hprefix
      have htwo : ['-', '-'] <+: '-' :: '-' :: s := by simp [List.cons_prefix_cons]
      exact hhyphens (htwo.isInfix.trans hs.isInfix)

theorem indexOf?_instruction {body : List Char} (hallowed : (Filler.instruction body).Allowed)
    (hclear : (Filler.instruction body).Clear) (r : List Char) :
    indexOf? Aside.instruction.closing
        (Aside.instruction.opening ++ (body ++ (Aside.instruction.closing ++ r))) =
      some (Aside.instruction.opening ++ body).length := by
  apply indexOf?_closing
  · intro s hs _ hprefix
    simp only [Aside.opening, Aside.closing, List.suffix_cons_iff, List.suffix_nil] at hs hprefix
    rcases hs with rfl | rfl | rfl
    · simp [List.cons_prefix_cons] at hprefix
    · match body with
      | [] => simp [List.cons_prefix_cons] at hprefix
      | x :: body =>
        obtain rfl : '>' = x := by simpa [List.cons_prefix_cons] using hprefix
        exact hclear (List.cons_prefix_cons.mpr ⟨rfl, List.nil_prefix⟩)
    · contradiction
  · intro s hs hne hprefix
    match s with
    | [] => exact hne rfl
    | [x] => simp [Aside.closing, List.cons_prefix_cons] at hprefix
    | x :: y :: s =>
      simp only [Aside.closing, List.cons_append, List.cons_prefix_cons] at hprefix
      obtain ⟨rfl, rfl, -⟩ := hprefix
      have htwo : ['?', '>'] <+: '?' :: '>' :: s := by simp [List.cons_prefix_cons]
      exact hallowed (htwo.isInfix.trans hs.isInfix)

/-! ## One filler -/

section

variable {c : Cursor} {r : List Char}

theorem skipAsides_congr {d : Cursor} (h : c.skipBlanks = d.skipBlanks) :
    skipAsides c = skipAsides d := by
  conv_lhs => rw [skipAsides]
  conv_rhs => rw [skipAsides]
  rw [h]

theorem skipAsides_blank {x : Char} (hx : isBlank x = true) (h : c.rest = x :: r) :
    skipAsides c = skipAsides (c.advance 1) := by
  apply skipAsides_congr
  have hrun : c.run isBlank = x :: (c.advance 1).run isBlank := by
    rw [Cursor.run, Cursor.run, Cursor.rest_advance, h, List.drop_one, List.tail_cons,
      List.takeWhile_cons_of_pos hx]
  rw [Cursor.skipBlanks, Cursor.skipBlanks, Cursor.skipRun, Cursor.skipRun, hrun,
    Cursor.advance_advance, List.length_cons, Nat.add_comm]

theorem skipBlanks_of_opening {a : Aside} (h : a.opening <+: c.rest) : c.skipBlanks = c := by
  obtain ⟨s, hs⟩ := h
  apply Cursor.skipBlanks_of_stops
  rw [← hs]
  cases a <;> exact stops_cons (by decide)

/-- An aside that stands here is skipped up to where its closing text is found. -/
theorem skipAsides_found {a : Aside} {i : Nat} (hskip : c.skipBlanks = c)
    (hfirst : Aside.all.find? (fun b => c.startsWith b.opening) = some a)
    (hindex : indexOf? a.closing c.rest = some i) :
    skipAsides c = skipAsides (c.advance (i + a.closing.length)) := by
  rw [← hskip] at hfirst hindex
  rw [skipAsides]
  split
  · next hnone => simp [hfirst] at hnone
  · next b hsome =>
    obtain rfl : a = b := Option.some.inj (hfirst.symm.trans hsome)
    split
    · next hnone => simp [hindex] at hnone
    · next j hj =>
      obtain rfl : i = j := Option.some.inj (hindex.symm.trans hj)
      rw [hskip]

theorem skipAsides_aside (a : Aside) {body : List Char}
    (h : c.rest = a.opening ++ (body ++ (a.closing ++ r)))
    (hfirst : Aside.all.find? (fun b => c.startsWith b.opening) = some a)
    (hclosing : indexOf? a.closing (a.opening ++ (body ++ (a.closing ++ r))) =
      some (a.opening ++ body).length) :
    skipAsides c = skipAsides (c.advance (a.opening ++ body ++ a.closing).length) := by
  rw [skipAsides_found (skipBlanks_of_opening ⟨_, h.symm⟩) hfirst (by rw [h, hclosing]),
    ← List.length_append]

/-- A clear filler is skipped. -/
theorem skipAsides_filler {x : Filler} (hallowed : x.Allowed) (hclear : x.Clear)
    (h : c.rest = x.print ++ r) : skipAsides c = skipAsides (c.advance x.print.length) := by
  cases x with
  | blank x => exact skipAsides_blank hallowed h
  | comment body =>
    rw [Filler.print, List.append_assoc, List.append_assoc] at h
    refine skipAsides_aside .comment h ?_ (indexOf?_comment hallowed hclear r)
    simp [Aside.all, Cursor.startsWith, h, Aside.opening]
  | instruction body =>
    rw [Filler.print, List.append_assoc, List.append_assoc] at h
    refine skipAsides_aside .instruction h ?_ (indexOf?_instruction hallowed hclear r)
    simp [Aside.all, Cursor.startsWith, h, Aside.opening]

/-! ## All fillers of a gap -/

/-- A text that ends or goes on with a tag. -/
def StartsTag (r : List Char) : Prop := r = [] ∨ ∃ x s, r = '<' :: x :: s ∧ x ≠ '!' ∧ x ≠ '?'

theorem skipAsides_of_startsTag (h : StartsTag c.rest) : skipAsides c = .ok c := by
  have hskip : c.skipBlanks = c := by
    apply Cursor.skipBlanks_of_stops
    rcases h with h | ⟨x, s, h, -⟩
    · rw [h]
      exact fun x hx => by cases hx
    · rw [h]
      exact stops_cons (by decide)
  have hnone : Aside.all.find? (fun a => c.startsWith a.opening) = none := by
    rcases h with h | ⟨x, s, h, hbang, hmark⟩
    · simp [Aside.all, Cursor.startsWith, h, Aside.opening]
    · simp [Aside.all, Cursor.startsWith, h, Aside.opening, Ne.symm hbang, Ne.symm hmark]
  rw [skipAsides, hskip, hnone]

/-- The fillers of a gap are skipped up to the next tag. -/
theorem skipAsides_fillers (xs : List Filler) (hallowed : ∀ x ∈ xs, x.Allowed)
    (hclear : ∀ x ∈ xs, x.Clear) (h : c.rest = printFillers xs ++ r) (hr : StartsTag r) :
    skipAsides c = .ok (c.advance (printFillers xs).length) := by
  induction xs generalizing c with
  | nil =>
    obtain rfl : c.rest = r := h
    exact skipAsides_of_startsTag hr
  | cons x xs ih =>
    obtain ⟨hx, hxs⟩ := List.forall_mem_cons.mp hallowed
    obtain ⟨hx', hxs'⟩ := List.forall_mem_cons.mp hclear
    rw [printFillers, List.flatMap_cons, List.append_assoc] at h
    rw [skipAsides_filler hx hx' h, ih hxs hxs' (Cursor.rest_behind h), Cursor.advance_append]
    rfl

end

end SceneGraph.Markup
