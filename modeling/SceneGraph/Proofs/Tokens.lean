import Mathlib.Data.List.TakeWhile
import Mathlib.Tactic.Tauto
import SceneGraph.Parameter.Token

/-!
# Where tokens stand

A text has a token exactly where a dollar sign has a name character behind it (`HasToken`), and
the first token is the one with no token in front of it, with its name as long as it can be
(`FirstToken`).  From one dollar sign to the next a text is read like this:

    a name character behind it    = the first token, and its name     (firstToken_found)
    none behind it                = the tokens of what is behind it   (firstToken_passed)

Parts without tokens can still make one when they are put together: where one part ends in a
dollar sign and the next part that is not empty starts with a name character
(`hasToken_flatten`).
-/

namespace SceneGraph.Parameter

/-- A dollar sign with a name character right behind it. -/
def HasToken (cs : List Char) : Prop :=
  ∃ before c after, cs = before ++ '$' :: c :: after ∧ isNameChar c = true

def StartsName (cs : List Char) : Prop := ∃ c, cs.head? = some c ∧ isNameChar c = true

/-- The first token of a text: no token stands in front of it, and its name is as long as it can
be. -/
def FirstToken (name cs : List Char) : Prop :=
  ∃ before after, cs = before ++ '$' :: (name ++ after) ∧ ¬ HasToken before ∧
    isName name = true ∧ ¬ StartsName after

def EndsDollar (cs : List Char) : Prop := cs.getLast? = some '$'

/-- A part that ends in a dollar sign, and a part that starts with a name character, with
nothing between them. -/
def Seam (parts : List (List Char)) : Prop :=
  ∃ before p gap q after, parts = before ++ p :: (gap ++ q :: after) ∧
    EndsDollar p ∧ (∀ g ∈ gap, g = []) ∧ StartsName q

/-! ## Tokens in one text -/

theorem not_startsName_nil : ¬ StartsName [] := by
  rintro ⟨c, h, -⟩
  cases h

theorem startsName_cons {c : Char} {cs : List Char} :
    StartsName (c :: cs) ↔ isNameChar c = true := by
  simp [StartsName]

theorem not_hasToken_nil : ¬ HasToken [] := by
  rintro ⟨before, c, after, h, -⟩
  simp at h

theorem hasToken_cons {c : Char} {cs : List Char} :
    HasToken (c :: cs) ↔ (c = '$' ∧ StartsName cs) ∨ HasToken cs := by
  constructor
  · rintro ⟨before, d, after, h, hd⟩
    cases before with
    | nil =>
      obtain ⟨rfl, rfl⟩ := List.cons.inj h
      exact .inl ⟨rfl, d, rfl, hd⟩
    | cons b before =>
      obtain ⟨rfl, rfl⟩ := List.cons.inj h
      exact .inr ⟨before, d, after, rfl, hd⟩
  · rintro (⟨rfl, hcs⟩ | ⟨before, d, after, rfl, hd⟩)
    · cases cs with
      | nil => exact absurd hcs not_startsName_nil
      | cons d cs => exact ⟨[], d, cs, rfl, startsName_cons.mp hcs⟩
    · exact ⟨c :: before, d, after, rfl, hd⟩

theorem takeWhile_ne_nil_iff {cs : List Char} : cs.takeWhile isNameChar ≠ [] ↔ StartsName cs := by
  cases cs with
  | nil => simp [not_startsName_nil]
  | cons c cs =>
    rw [startsName_cons]
    cases h : isNameChar c <;> simp [h]

/-! ## Names -/

theorem isName_iff {name : List Char} :
    isName name = true ↔ name ≠ [] ∧ ∀ c ∈ name, isNameChar c = true := by
  simp [isName]

theorem isName_takeWhile {cs : List Char} (h : StartsName cs) :
    isName (cs.takeWhile isNameChar) = true :=
  isName_iff.mpr ⟨takeWhile_ne_nil_iff.mpr h, fun _ hc => List.mem_takeWhile_imp hc⟩

theorem startsName_of_isName {name : List Char} (h : isName name = true) : StartsName name := by
  obtain ⟨hne, hall⟩ := isName_iff.mp h
  obtain ⟨c, cs, rfl⟩ := List.exists_cons_of_ne_nil hne
  exact startsName_cons.mpr (hall c List.mem_cons_self)

theorem not_startsName_dropWhile (cs : List Char) : ¬ StartsName (cs.dropWhile isNameChar) := by
  rintro ⟨c, hc, hname⟩
  have hnot := List.head?_dropWhile_not isNameChar cs
  rw [hc] at hnot
  simp [hname] at hnot

/-- A name ends where the text does, or where no name character follows. -/
theorem span_append {xs ys : List Char} (h : xs.dropWhile isNameChar = [] → ¬ StartsName ys) :
    (xs ++ ys).takeWhile isNameChar = xs.takeWhile isNameChar ∧
      (xs ++ ys).dropWhile isNameChar = xs.dropWhile isNameChar ++ ys := by
  induction xs with
  | nil =>
    have hys : ys.takeWhile isNameChar = [] := by
      by_contra hne
      exact h rfl (takeWhile_ne_nil_iff.mp hne)
    refine ⟨hys, ?_⟩
    have hspan := List.takeWhile_append_dropWhile (p := isNameChar) (l := ys)
    rwa [hys] at hspan
  | cons x xs ih =>
    cases hx : isNameChar x with
    | true =>
      rw [List.dropWhile_cons_of_pos hx] at h
      obtain ⟨htake, hdrop⟩ := ih h
      simp [hx, htake, hdrop]
    | false => simp [hx]

theorem span_name {name after : List Char} (hname : isName name = true)
    (hafter : ¬ StartsName after) :
    (name ++ after).takeWhile isNameChar = name ∧
      (name ++ after).dropWhile isNameChar = after := by
  obtain ⟨-, hall⟩ := isName_iff.mp hname
  obtain ⟨htake, hdrop⟩ := @span_append name after fun _ => hafter
  rw [htake, hdrop, List.takeWhile_eq_self_iff.mpr hall, List.dropWhile_eq_nil_iff.mpr hall]
  exact ⟨rfl, rfl⟩

/-! ## Tokens in two texts -/

theorem startsName_append {xs ys : List Char} :
    StartsName (xs ++ ys) ↔ StartsName xs ∨ (xs = [] ∧ StartsName ys) := by
  cases xs with
  | nil => simp [not_startsName_nil]
  | cons x xs => simp [startsName_cons]

/-- A token of two texts stands in one of them or where they meet. -/
theorem hasToken_append {xs ys : List Char} :
    HasToken (xs ++ ys) ↔ HasToken xs ∨ HasToken ys ∨ (EndsDollar xs ∧ StartsName ys) := by
  induction xs with
  | nil => simp [not_hasToken_nil, EndsDollar]
  | cons x xs ih =>
    rw [List.cons_append, hasToken_cons, hasToken_cons, ih, startsName_append]
    have hlast : EndsDollar (x :: xs) ↔ (xs = [] ∧ x = '$') ∨ EndsDollar xs := by
      cases xs with
      | nil => simp [EndsDollar]
      | cons y ys => simp [EndsDollar]
    rw [hlast]
    tauto

/-! ## From one dollar sign to the next -/

theorem not_hasToken_of_noDollar {cs : List Char} (h : '$' ∉ cs) : ¬ HasToken cs := by
  rintro ⟨before, c, after, rfl, -⟩
  simp at h

theorem FirstToken.hasToken {name cs : List Char} (h : FirstToken name cs) : HasToken cs := by
  obtain ⟨before, after, rfl, -, hname, -⟩ := h
  obtain ⟨c, cs, rfl⟩ := List.exists_cons_of_ne_nil (isName_iff.mp hname).1
  exact ⟨before, c, cs ++ after, rfl, (isName_iff.mp hname).2 c List.mem_cons_self⟩

/-- The first dollar sign of a text is the one meant, or one in front of it. -/
theorem eq_of_append_dollar {before after front rest : List Char} (hbefore : '$' ∉ before)
    (h : before ++ '$' :: after = front ++ '$' :: rest) :
    (front = before ∧ rest = after) ∨
      ∃ gap, front = before ++ '$' :: gap ∧ after = gap ++ '$' :: rest := by
  rcases List.append_eq_append_iff.mp h with ⟨gap, rfl, hgap⟩ | ⟨gap, rfl, hgap⟩
  · cases gap with
    | nil => exact .inl ⟨List.append_nil _, (List.cons.inj hgap).2.symm⟩
    | cons d gap =>
      obtain ⟨rfl, rfl⟩ := List.cons.inj hgap
      exact .inr ⟨gap, rfl, rfl⟩
  · cases gap with
    | nil => exact .inl ⟨(List.append_nil _).symm, (List.cons.inj hgap).2⟩
    | cons d gap =>
      obtain ⟨rfl, -⟩ := List.cons.inj hgap
      exact absurd (List.mem_append_right _ List.mem_cons_self) hbefore

section

variable {before after : List Char} (hbefore : '$' ∉ before)

include hbefore

theorem hasToken_dollar :
    HasToken (before ++ '$' :: after) ↔ StartsName after ∨ HasToken after := by
  have hdollar : ¬ StartsName ('$' :: after) := by
    rw [startsName_cons]
    decide
  rw [hasToken_append, hasToken_cons, or_iff_right (not_hasToken_of_noDollar hbefore),
    or_iff_left fun h => hdollar h.2]
  simp

theorem firstToken_found (name : List Char) (hstart : StartsName after) :
    FirstToken name (before ++ '$' :: after) ↔ after.takeWhile isNameChar = name := by
  constructor
  · rintro ⟨front, rest, h, hfront, hname, hrest⟩
    rcases eq_of_append_dollar hbefore h with ⟨-, rfl⟩ | ⟨gap, rfl, rfl⟩
    · exact (span_name hname hrest).1
    · -- the dollar sign in front has a name behind it already
      refine absurd ((hasToken_dollar hbefore).mpr (.inl ?_)) hfront
      rcases startsName_append.mp hstart with hgap | ⟨-, hdollar⟩
      · exact hgap
      · exact absurd (startsName_cons.mp hdollar) (by decide)
  · rintro rfl
    refine ⟨before, after.dropWhile isNameChar, ?_, not_hasToken_of_noDollar hbefore,
      isName_takeWhile hstart, not_startsName_dropWhile after⟩
    rw [List.takeWhile_append_dropWhile]

theorem firstToken_passed (name : List Char) (hstart : ¬ StartsName after) :
    FirstToken name (before ++ '$' :: after) ↔ FirstToken name after := by
  constructor
  · rintro ⟨front, rest, h, hfront, hname, hrest⟩
    rcases eq_of_append_dollar hbefore h with ⟨-, rfl⟩ | ⟨gap, rfl, rfl⟩
    · exact absurd (startsName_append.mpr (.inl (startsName_of_isName hname))) hstart
    · exact ⟨gap, rest, rfl, fun hgap => hfront ((hasToken_dollar hbefore).mpr (.inr hgap)),
        hname, hrest⟩
  · rintro ⟨gap, rest, rfl, hgap, hname, hrest⟩
    refine ⟨before ++ '$' :: gap, rest, by simp, ?_, hname, hrest⟩
    rw [hasToken_dollar hbefore]
    rintro (h | h)
    · exact hstart (startsName_append.mpr (.inl h))
    · exact hgap h

end

/-- A text with a token has a first one. -/
theorem exists_firstToken {cs : List Char} (h : HasToken cs) : ∃ name, FirstToken name cs := by
  induction cs with
  | nil => exact absurd h not_hasToken_nil
  | cons c cs ih =>
    by_cases hc : c = '$' ∧ StartsName cs
    · obtain ⟨rfl, hstart⟩ := hc
      exact ⟨_, (firstToken_found List.not_mem_nil _ hstart).mpr rfl⟩
    · obtain ⟨name, before, after, rfl, hbefore, hname, hafter⟩ :=
        ih ((hasToken_cons.mp h).resolve_left hc)
      refine ⟨name, c :: before, after, rfl, ?_, hname, hafter⟩
      rw [hasToken_cons]
      rintro (⟨rfl, hstart⟩ | hb)
      · exact hc ⟨rfl, startsName_append.mpr (.inl hstart)⟩
      · exact hbefore hb

/-! ## Tokens across parts -/

/-- What stands first in the joined parts stands first in the first part that is not empty. -/
theorem startsName_flatten {parts : List (List Char)} :
    StartsName parts.flatten ↔
      ∃ gap q after, parts = gap ++ q :: after ∧ (∀ g ∈ gap, g = []) ∧ StartsName q := by
  induction parts with
  | nil =>
    refine iff_of_false not_startsName_nil ?_
    rintro ⟨gap, q, after, h, -⟩
    simp at h
  | cons p parts ih =>
    rw [List.flatten_cons, startsName_append, ih]
    constructor
    · rintro (hp | ⟨rfl, gap, q, after, rfl, hgap, hq⟩)
      · exact ⟨[], p, parts, rfl, by simp, hp⟩
      · refine ⟨[] :: gap, q, after, rfl, fun g hg => ?_, hq⟩
        rcases List.mem_cons.mp hg with rfl | hg
        · rfl
        · exact hgap g hg
    · rintro ⟨gap, q, after, h, hgap, hq⟩
      cases gap with
      | nil =>
        obtain ⟨rfl, rfl⟩ := List.cons.inj h
        exact .inl hq
      | cons g gap =>
        obtain ⟨rfl, rfl⟩ := List.cons.inj h
        exact .inr ⟨hgap p List.mem_cons_self, gap, q, after, rfl,
          fun g hg => hgap g (List.mem_cons_of_mem _ hg), hq⟩

theorem seam_cons {p : List Char} {parts : List (List Char)} :
    Seam (p :: parts) ↔ (EndsDollar p ∧ StartsName parts.flatten) ∨ Seam parts := by
  constructor
  · rintro ⟨before, d, gap, q, after, h, hd, hgap, hq⟩
    cases before with
    | nil =>
      obtain ⟨rfl, rfl⟩ := List.cons.inj h
      exact .inl ⟨hd, startsName_flatten.mpr ⟨gap, q, after, rfl, hgap, hq⟩⟩
    | cons b before =>
      obtain ⟨rfl, rfl⟩ := List.cons.inj h
      exact .inr ⟨before, d, gap, q, after, rfl, hd, hgap, hq⟩
  · rintro (⟨hp, hparts⟩ | ⟨before, d, gap, q, after, rfl, hd, hgap, hq⟩)
    · obtain ⟨gap, q, after, rfl, hgap, hq⟩ := startsName_flatten.mp hparts
      exact ⟨[], p, gap, q, after, rfl, hp, hgap, hq⟩
    · exact ⟨p :: before, d, gap, q, after, rfl, hd, hgap, hq⟩

/-- A token of joined parts stands in one of them or across a seam. -/
theorem hasToken_flatten {parts : List (List Char)} :
    HasToken parts.flatten ↔ (∃ p ∈ parts, HasToken p) ∨ Seam parts := by
  induction parts with
  | nil =>
    refine iff_of_false not_hasToken_nil ?_
    rintro (⟨p, hp, -⟩ | ⟨before, p, gap, q, after, h, -⟩)
    · cases hp
    · simp at h
  | cons p parts ih =>
    have hparts : (∃ q ∈ p :: parts, HasToken q) ↔ HasToken p ∨ ∃ q ∈ parts, HasToken q := by
      simp
    rw [List.flatten_cons, hasToken_append, ih, seam_cons, hparts, or_assoc, or_assoc,
      or_comm (a := Seam parts)]

end SceneGraph.Parameter
