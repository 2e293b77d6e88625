import SceneGraph.Proofs.Asides

/-!
# What may stand between tags

A gap is a text of blanks and asides, where an aside goes up to the first closing text behind its
start.  `skipAsides` gets to the end of a text exactly when the text is a gap
(`skipAsides_end_iff`).
-/

namespace SceneGraph

namespace Text

/-- A text that ends in another one, for the first time at its end. -/
structure UpTo (text w : List Char) : Prop where
  ends : text <:+ w
  first : ∀ v, v <+: w → text <:+ v → v = w

/-- What is searched ends for the first time where it was found. -/
theorem indexOf?_upTo {text cs : List Char} {i : Nat} (h : indexOf? text cs = some i) :
    UpTo text (cs.take (i + text.length)) := by
  induction cs generalizing i with
  | nil =>
    obtain ⟨rfl, rfl⟩ : text = [] ∧ 0 = i := by simpa [indexOf?] using h
    exact ⟨List.suffix_rfl, fun v hv _ => List.prefix_nil.mp hv⟩
  | cons c cs ih =>
    rw [indexOf?] at h
    split at h
    · next hhere =>
      rw [List.isPrefixOf_iff_prefix] at hhere
      obtain rfl := Option.some.inj h
      rw [Nat.zero_add, ← List.prefix_iff_eq_take.mp hhere]
      exact ⟨List.suffix_rfl, fun v hv hends =>
        hv.eq_of_length (Nat.le_antisymm hv.length_le hends.length_le)⟩
    · next hhere =>
      rw [List.isPrefixOf_iff_prefix] at hhere
      obtain ⟨j, hj, rfl⟩ := Option.map_eq_some_iff.mp h
      obtain ⟨hends, hfirst⟩ := ih hj
      rw [Nat.add_right_comm, List.take_succ_cons]
      refine ⟨hends.trans (List.suffix_cons _ _), fun v hv htext => ?_⟩
      rcases List.prefix_cons_iff.mp hv with rfl | ⟨u, rfl, hu⟩
      · rw [List.suffix_nil.mp htext] at hhere
        exact absurd List.nil_prefix hhere
      · rcases List.suffix_cons_iff.mp htext with rfl | htext
        · exact absurd ((List.prefix_cons_inj c).mpr (hu.trans (List.take_prefix _ _))) hhere
        · rw [hfirst u hu htext]

theorem indexOf?_of_upTo {text w : List Char} (h : UpTo text w) (r : List Char) :
    ∃ i, i + text.length = w.length ∧ indexOf? text (w ++ r) = some i := by
  induction w with
  | nil =>
    obtain rfl := List.suffix_nil.mp h.ends
    exact ⟨0, rfl, by cases r <;> rfl⟩
  | cons x w ih =>
    by_cases hhere : text <+: x :: (w ++ r)
    · have hprefix : text <+: x :: w := by
        rw [← List.cons_append] at hhere
        exact List.prefix_of_prefix_length_le hhere (List.prefix_append _ _) h.ends.length_le
      have hwhole : text = x :: w := h.first text hprefix List.suffix_rfl
      exact ⟨0, by rw [hwhole, Nat.zero_add], by
        rw [List.cons_append, indexOf?, if_pos (List.isPrefixOf_iff_prefix.mpr hhere)]⟩
    · have hends : text <:+ w := by
        rcases List.suffix_cons_iff.mp h.ends with rfl | hends
        · exact absurd ((List.prefix_cons_inj x).mpr (List.prefix_append _ _)) hhere
        · exact hends
      have hfirst : ∀ v, v <+: w → text <:+ v → v = w := by
        intro v hv htext
        have hwhole := h.first (x :: v) ((List.prefix_cons_inj x).mpr hv)
          (htext.trans (List.suffix_cons _ _))
        exact (List.cons.inj hwhole).2
      obtain ⟨i, hlength, hi⟩ := ih ⟨hends, hfirst⟩
      refine ⟨i + 1, by rw [List.length_cons]; omega, ?_⟩
      rw [List.cons_append, indexOf?, if_neg (by rwa [List.isPrefixOf_iff_prefix]), hi]
      rfl

end Text

namespace Markup

open Text Cursor

/-- A text of blanks and asides. -/
inductive IsGap : List Char → Prop
  | nil : IsGap []
  | blank {x : Char} {r : List Char} : isBlank x = true → IsGap r → IsGap (x :: r)
  | aside {a : Aside} {w r : List Char} :
    a.opening <+: w → UpTo a.closing w → IsGap r → IsGap (w ++ r)

namespace Cursor

theorem rest_skipRun (c : Cursor) (p : Char → Bool) :
    (c.skipRun p).rest = c.rest.dropWhile p := by
  rw [skipRun, rest_advance, run]
  nth_rewrite 2 [← List.takeWhile_append_dropWhile (p := p) (l := c.rest)]
  exact List.drop_left

theorem stops_skipRun (c : Cursor) (p : Char → Bool) : Stops p (c.skipRun p).rest := by
  intro x hx
  rw [rest_skipRun] at hx
  have hhead := List.head?_dropWhile_not p c.rest
  rw [Option.mem_def.mp hx] at hhead
  exact hhead

end Cursor

section

variable {c c' : Cursor}

/-! ## Asides that start here -/

/-- No text starts with the opening texts of two asides. -/
theorem find?_opening {a : Aside} :
    Aside.all.find? (fun b => c.startsWith b.opening) = some a ↔ a.opening <+: c.rest := by
  have hstarts : ∀ b, Aside.all.find? (fun b => c.startsWith b.opening) = some b →
      b.opening <+: c.rest := by
    intro b hb
    have hhere : c.startsWith b.opening = true := by simpa using List.find?_some hb
    exact startsWith_iff.mp hhere
  constructor
  · exact hstarts a
  · intro h
    cases hfirst : Aside.all.find? (fun b => c.startsWith b.opening) with
    | none =>
      have hall : a ∈ Aside.all := by cases a <;> decide
      exact absurd (startsWith_iff.mpr h) (List.find?_eq_none.mp hfirst a hall)
    | some b =>
      rcases List.prefix_or_prefix_of_prefix h (hstarts b hfirst) with hab | hba
      · revert hab
        cases a <;> cases b <;> decide
      · revert hba
        cases a <;> cases b <;> decide

theorem Aside.closing_not_infix (a : Aside) : ¬ a.closing <:+: a.opening := by
  cases a <;> decide

/-! ## Gaps -/

theorem IsGap.blanks {bs r : List Char} (hbs : ∀ x ∈ bs, isBlank x = true) (hr : IsGap r) :
    IsGap (bs ++ r) := by
  induction bs with
  | nil => exact hr
  | cons x bs ih =>
    obtain ⟨hx, hbs⟩ := List.forall_mem_cons.mp hbs
    exact .blank hx (ih hbs)

theorem isGap_of_skipAsides (h : skipAsides c = .ok c') (hend : c'.rest = []) :
    IsGap c.rest := by
  fun_induction skipAsides c with
  | case1 c =>
    obtain rfl := Except.ok.inj h
    have hdrop : c.rest.dropWhile isBlank = [] := (c.rest_skipRun isBlank).symm.trans hend
    have hblanks := IsGap.blanks (List.dropWhile_eq_nil_iff.mp hdrop) .nil
    rwa [List.append_nil] at hblanks
  | case2 => cases h
  | case3 c a hfirst i hi ih =>
    have hopening := find?_opening.mp hfirst
    have hupTo := indexOf?_upTo hi
    have hopens : a.opening <+: c.skipBlanks.rest.take (i + a.closing.length) := by
      rcases List.prefix_or_prefix_of_prefix hopening (List.take_prefix _ _) with hin | hout
      · exact hin
      · exact absurd (hupTo.ends.isInfix.trans hout.isInfix) a.closing_not_infix
    have haside := IsGap.aside hopens hupTo (ih h)
    rw [rest_advance, List.take_append_drop, skipBlanks, rest_skipRun] at haside
    rw [← List.takeWhile_append_dropWhile (p := isBlank) (l := c.rest)]
    exact .blanks (fun x hx => List.mem_takeWhile_imp hx) haside

theorem skipAsides_of_isGap {r : List Char} (hr : IsGap r) : ∀ {c : Cursor}, c.rest = r →
    ∃ c', skipAsides c = .ok c' ∧ c'.rest = [] := by
  induction hr with
  | nil =>
    intro c h
    exact ⟨c, skipAsides_of_startsTag (.inl h), h⟩
  | blank hx _ ih =>
    intro c h
    rw [skipAsides_blank hx h]
    exact ih (by rw [rest_advance, h, List.drop_one, List.tail_cons])
  | @aside a w r hopens hupTo _ ih =>
    intro c h
    have hopening : a.opening <+: c.rest := by
      rw [h]
      exact hopens.trans (List.prefix_append _ _)
    obtain ⟨i, hlength, hi⟩ := indexOf?_of_upTo hupTo r
    rw [← h] at hi
    rw [skipAsides_found (skipBlanks_of_opening hopening) (find?_opening.mpr hopening) hi, hlength]
    exact ih (rest_behind h)

theorem skipAsides_end_iff :
    (∃ c', skipAsides c = .ok c' ∧ c'.rest = []) ↔ IsGap c.rest := by
  constructor
  · rintro ⟨c', h, hend⟩
    exact isGap_of_skipAsides h hend
  · exact fun h => skipAsides_of_isGap h rfl

end

end Markup

end SceneGraph
