import SceneGraph.Proofs.Scans

/-!
# Texts as tokens and characters

`pieces` cuts a text into its tokens and the characters between them, and `spellAll` puts them
together again (`spellAll_pieces`).  Substitution writes for each piece what stands for it, up to
the first name that has no value (`substitute_eq_expandAll`).

Two texts are cut one after the other, unless the seam between them tears a token
(`pieces_append`).
-/

namespace SceneGraph.Parameter

inductive Piece where
  | char (c : Char)
  | token (name : List Char)
deriving DecidableEq, Repr

def Piece.spell : Piece → List Char
  | char c => [c]
  | token name => '$' :: name

/-- A text as tokens and the characters between them. -/
def pieces : List Char → List Piece
  | [] => []
  | c :: cs =>
    if c = '$' ∧ cs.takeWhile isNameChar ≠ [] then
      .token (cs.takeWhile isNameChar) :: pieces (cs.dropWhile isNameChar)
    else .char c :: pieces cs
termination_by cs => cs.length
decreasing_by
  · exact Nat.lt_succ_of_le (List.dropWhile_sublist _).length_le
  · simp

def spellAll (ps : List Piece) : List Char := ps.flatMap Piece.spell

/-- A text that ends in a dollar sign, or in one with nothing but name characters behind it. -/
def EndsOpen (cs : List Char) : Prop :=
  ∃ before run, cs = before ++ '$' :: run ∧ ∀ c ∈ run, isNameChar c = true

/-- A token starts in the first text and goes on in the second. -/
def TearsToken (xs ys : List Char) : Prop := EndsOpen xs ∧ StartsName ys

/-- Two results one behind the other, or else the first error. -/
def joined {ε α : Type} [Append α] : Except ε α → Except ε α → Except ε α
  | .ok a, .ok b => .ok (a ++ b)
  | .ok _, .error e => .error e
  | .error e, _ => .error e

namespace Table

/-- What stands for a piece of a text: a token for the value of its parameter. -/
def expand (t : Table) : Piece → Except (List Char) (List Char)
  | .char c => .ok [c]
  | .token name =>
    match t.get? (String.ofList name) with
    | some value => .ok value.toList
    | none => .error name

/-- The expansions of all pieces in order, or the first name that has no value. -/
def expandAll (t : Table) : List Piece → Except (List Char) (List Char)
  | [] => .ok []
  | p :: ps => joined (t.expand p) (t.expandAll ps)

end Table

/-! ## Cutting -/

theorem spellAll_pieces (cs : List Char) : spellAll (pieces cs) = cs := by
  fun_induction pieces cs with
  | case1 => rfl
  | case2 c cs h ih =>
    simp only [spellAll, List.flatMap_cons, Piece.spell] at ih ⊢
    rw [ih, h.1, List.cons_append, List.takeWhile_append_dropWhile]
  | case3 c cs h ih =>
    simp only [spellAll, List.flatMap_cons, Piece.spell] at ih ⊢
    rw [ih, List.singleton_append]

theorem pieces_nil : pieces [] = [] := by rw [pieces]

theorem pieces_token {cs : List Char} (h : StartsName cs) :
    pieces ('$' :: cs) = .token (cs.takeWhile isNameChar) :: pieces (cs.dropWhile isNameChar) := by
  rw [pieces, if_pos ⟨rfl, takeWhile_ne_nil_iff.mpr h⟩]

theorem pieces_char {c : Char} {cs : List Char} (h : ¬ (c = '$' ∧ StartsName cs)) :
    pieces (c :: cs) = .char c :: pieces cs := by
  rw [pieces, if_neg (by rwa [takeWhile_ne_nil_iff])]

/-- In front of a dollar sign there are characters only. -/
theorem pieces_append_of_noDollar {before : List Char} (h : '$' ∉ before) (cs : List Char) :
    pieces (before ++ cs) = before.map .char ++ pieces cs := by
  induction before with
  | nil => rfl
  | cons c before ih =>
    have hc : ¬ (c = '$' ∧ StartsName (before ++ cs)) := by
      rintro ⟨rfl, -⟩
      exact h List.mem_cons_self
    rw [List.cons_append, pieces_char hc, ih (List.not_mem_of_not_mem_cons h), List.map_cons,
      List.cons_append]

theorem EndsOpen.append {xs : List Char} (h : EndsOpen xs) (zs : List Char) :
    EndsOpen (zs ++ xs) := by
  obtain ⟨before, run, rfl, hrun⟩ := h
  exact ⟨zs ++ before, run, by simp, hrun⟩

/-- Where no token is torn, the pieces of two texts are those of the first and those of the
second. -/
theorem pieces_append (xs ys : List Char) (h : ¬ TearsToken xs ys) :
    pieces (xs ++ ys) = pieces xs ++ pieces ys := by
  fun_induction pieces xs with
  | case1 => rfl
  | case2 c cs hc ih =>
    obtain ⟨rfl, hname⟩ := hc
    have hstart := takeWhile_ne_nil_iff.mp hname
    -- the name does not reach into the second text
    have hclosed : cs.dropWhile isNameChar = [] → ¬ StartsName ys := by
      intro hall hys
      refine h ⟨⟨[], cs, rfl, ?_⟩, hys⟩
      simpa using hall
    obtain ⟨htake, hdrop⟩ := span_append hclosed
    have hrest : ¬ TearsToken (cs.dropWhile isNameChar) ys := by
      rintro ⟨hopen, hys⟩
      refine h ⟨?_, hys⟩
      have happend := hopen.append ('$' :: cs.takeWhile isNameChar)
      rwa [List.cons_append, List.takeWhile_append_dropWhile] at happend
    rw [List.cons_append, pieces_token (startsName_append.mpr (.inl hstart)), htake, hdrop,
      ih hrest, List.cons_append]
  | case3 c cs hc ih =>
    rw [takeWhile_ne_nil_iff] at hc
    have hchar : ¬ (c = '$' ∧ StartsName (cs ++ ys)) := by
      rintro ⟨rfl, hstart⟩
      rcases startsName_append.mp hstart with hcs | ⟨rfl, hys⟩
      · exact hc ⟨rfl, hcs⟩
      · exact h ⟨⟨[], [], rfl, List.forall_mem_nil _⟩, hys⟩
    have hrest : ¬ TearsToken cs ys := by
      rintro ⟨hopen, hys⟩
      exact h ⟨hopen.append [c], hys⟩
    rw [List.cons_append, pieces_char hchar, ih hrest, List.cons_append]

/-! ## Expanding -/

theorem joined_ok_nil {ε : Type} (r : Except ε (List Char)) : joined (.ok []) r = r := by
  cases r <;> rfl

theorem joined_assoc {ε : Type} (a b c : Except ε (List Char)) :
    joined (joined a b) c = joined a (joined b c) := by
  cases a with
  | error e => rfl
  | ok xs =>
    cases b with
    | error e => rfl
    | ok ys =>
      cases c with
      | error e => rfl
      | ok zs => simp [joined]

namespace Table

theorem expandAll_append (t : Table) (ps qs : List Piece) :
    t.expandAll (ps ++ qs) = joined (t.expandAll ps) (t.expandAll qs) := by
  induction ps with
  | nil => exact (joined_ok_nil _).symm
  | cons p ps ih => rw [List.cons_append, expandAll, expandAll, ih, joined_assoc]

theorem expandAll_chars (t : Table) (cs : List Char) : t.expandAll (cs.map .char) = .ok cs := by
  induction cs with
  | nil => rfl
  | cons c cs ih =>
    rw [List.map_cons, expandAll, ih]
    rfl

/-- What is in front of the first dollar sign stands for itself. -/
theorem expandAll_behind (t : Table) {cs : List Char} {i : Nat} (h : cs.idxOf? '$' = some i) :
    t.expandAll (pieces cs) =
      joined (.ok (cs.take i)) (t.expandAll (pieces ('$' :: cs.drop (i + 1)))) := by
  obtain ⟨hbefore, hcs⟩ := of_idxOf?_dollar h
  have hpieces := pieces_append_of_noDollar hbefore ('$' :: cs.drop (i + 1))
  rw [hcs] at hpieces
  rw [hpieces, expandAll_append, expandAll_chars]

/-- The loop writes what stands for the pieces that are left. -/
theorem substituteFrom_eq_joined (t : Table) (out rest : List Char) :
    t.substituteFrom out rest = joined (.ok out) (t.expandAll (pieces rest)) := by
  fun_induction substituteFrom t out rest with
  | case1 out rest hnone =>
    have hpieces := pieces_append_of_noDollar (List.idxOf?_eq_none_iff.mp hnone) []
    rw [List.append_nil, pieces_nil, List.append_nil] at hpieces
    rw [hpieces, expandAll_chars]
    rfl
  | case2 out rest dollar hdollar before after length hlength ih =>
    have hlone : ¬ ('$' = '$' ∧ StartsName after) :=
      fun h => nameLength_ne_zero_iff.mpr h.2 hlength
    rw [t.expandAll_behind hdollar, pieces_char hlone, expandAll, ← joined_assoc,
      ← joined_assoc, ih]
    rfl
  | case3 out rest dollar hdollar before after length hlength value hvalue ih =>
    have hstart := nameLength_ne_zero_iff.mp hlength
    rw [take_nameLength] at hvalue
    rw [t.expandAll_behind hdollar, pieces_token hstart, expandAll, expand, hvalue,
      ← joined_assoc, ← joined_assoc, ih, drop_nameLength]
    rfl
  | case4 out rest dollar hdollar after length hlength hvalue =>
    have hstart := nameLength_ne_zero_iff.mp hlength
    rw [take_nameLength] at hvalue ⊢
    rw [t.expandAll_behind hdollar, pieces_token hstart, expandAll, expand, hvalue]
    rfl

/-- Substitution writes what stands for the pieces of a text. -/
theorem substitute_eq_expandAll (t : Table) (cs : List Char) :
    t.substitute cs = t.expandAll (pieces cs) := by
  rw [substitute_eq_substituteFrom, substituteFrom_eq_joined, joined_ok_nil]

end Table

end SceneGraph.Parameter
