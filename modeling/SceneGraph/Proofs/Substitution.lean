import SceneGraph.Proofs.Pieces
import SceneGraph.Proofs.TableIndex

/-!
# When substitution leaves a token behind

No call puts a value with a token into a table (`applyAll_tokenFree`), so what a piece of a
text is replaced by has no token in it (`text_tokenFree`).  What a whole text is replaced by
can still have one: exactly where a part that ends in a dollar sign meets a part that starts
with a name character (`resolve_token_iff`).  Such texts exist
(`resolve_makes_token`).
-/

namespace SceneGraph.Parameter.Table

/-- No parameter has a value with a token. -/
def TokenFree (t : Table) : Prop := ∀ p ∈ t.parameters, ¬ HasToken p.value.toList

/-- What is written for a piece of a text.  Nothing is written for a name without a value. -/
def text (t : Table) : Piece → List Char
  | .char c => [c]
  | .token name => ((t.get? (String.ofList name)).getD "").toList

/-! ## Tables without tokens -/

theorem define_tokenFree {t t' : Table} {name value : String} {l : Location}
    (ht : t.TokenFree) (h : t.define name value l = .accepted t') : t'.TokenFree := by
  obtain ⟨-, -, hvalue, rfl⟩ := define_accepted h
  intro p hp
  rcases List.mem_append.mp hp with hp | hp
  · exact ht p hp
  · obtain rfl := List.mem_singleton.mp hp
    exact tokenProblem?_eq_none_iff.mp hvalue

theorem override_tokenFree {t t' : Table} {name value : String} (ht : t.TokenFree)
    (hstep : t.InStep) (h : t.override name value = .accepted t') : t'.TokenFree := by
  obtain ⟨-, -, -, hvalue, rfl⟩ := hstep.override_accepted h
  refine List.forall_mem_map.mpr fun q hq => ?_
  unfold assign
  split
  · exact tokenProblem?_eq_none_iff.mp hvalue
  · exact ht q hq

theorem applyAll_tokenFree (calls : List Call) : (empty.applyAll call calls).1.TokenFree := by
  refine (applyAll_preserves (P := fun t => t.InStep ∧ t.TokenFree) atomic_call ?_ calls empty
    ⟨inStep_empty, List.forall_mem_nil _⟩).2
  rintro t c t' ⟨hstep, ht⟩ h
  refine ⟨hstep.call h, ?_⟩
  cases c with
  | define name value l => exact define_tokenFree ht h
  | override name value => exact override_tokenFree ht hstep h

/-! ## What is written for a text -/

theorem get?_tokenFree {t : Table} {name value : String} (hstep : t.InStep) (ht : t.TokenFree)
    (h : t.get? name = some value) : ¬ HasToken value.toList := by
  obtain ⟨p, hp, rfl⟩ := Option.map_eq_some_iff.mp h
  exact ht p (hstep.mem_of_find? hp)

theorem text_tokenFree {t : Table} (hstep : t.InStep) (ht : t.TokenFree) (p : Piece) :
    ¬ HasToken (t.text p) := by
  cases p with
  | char c => simp [text, hasToken_cons, not_startsName_nil, not_hasToken_nil]
  | token name =>
    show ¬ HasToken ((t.get? (String.ofList name)).getD "").toList
    cases hvalue : t.get? (String.ofList name) with
    | none => exact not_hasToken_nil
    | some value => exact get?_tokenFree hstep ht hvalue

theorem expand_eq_text {t : Table} {p : Piece} {cs : List Char} (h : t.expand p = .ok cs) :
    cs = t.text p := by
  cases p with
  | char c => exact (Except.ok.inj h).symm
  | token name =>
    simp only [expand] at h
    cases hvalue : t.get? (String.ofList name) with
    | none =>
      rw [hvalue] at h
      cases h
    | some value =>
      rw [hvalue] at h
      rw [text, hvalue]
      exact (Except.ok.inj h).symm

theorem expandAll_eq_flatten {t : Table} {ps : List Piece} {cs : List Char}
    (h : t.expandAll ps = .ok cs) : cs = (ps.map t.text).flatten := by
  induction ps generalizing cs with
  | nil => exact (Except.ok.inj h).symm
  | cons p ps ih =>
    rw [expandAll] at h
    cases hp : t.expand p with
    | error name =>
      rw [hp] at h
      cases h
    | ok ds =>
      cases hps : t.expandAll ps with
      | error name =>
        rw [hp, hps] at h
        cases h
      | ok es =>
        rw [hp, hps] at h
        rw [List.map_cons, List.flatten_cons, ← expand_eq_text hp, ← ih hps]
        exact (Except.ok.inj h).symm

theorem resolve_eq_flatten {t : Table} {raw out : String} {l : Location}
    (h : t.resolve raw l = .ok out) : out.toList = ((pieces raw.toList).map t.text).flatten := by
  rw [resolve_eq_ok_iff, substitute_eq_expandAll] at h
  exact expandAll_eq_flatten h

/-! ## Top theorem -/

/-- In a table that calls have made, what a text is replaced by is free of tokens exactly when
no two neighbouring parts of it make one: a part that ends in a dollar sign and a part that
starts with a name character. -/
theorem resolve_token_iff (calls : List Call) (raw out : String) (l : Location)
    (h : (empty.applyAll call calls).1.resolve raw l = .ok out) :
    firstToken? out.toList = none ↔
      ¬ Seam ((pieces raw.toList).map (empty.applyAll call calls).1.text) := by
  have htext : ¬ ∃ part ∈ (pieces raw.toList).map (empty.applyAll call calls).1.text,
      HasToken part := by
    rintro ⟨part, hpart, htoken⟩
    obtain ⟨p, -, rfl⟩ := List.mem_map.mp hpart
    exact text_tokenFree (inStep_applyAll_call calls empty inStep_empty)
      (applyAll_tokenFree calls) p htoken
  rw [firstToken?_eq_none_iff, resolve_eq_flatten h, hasToken_flatten, or_iff_right htext]

theorem resolve_token_iff_plain :
    (empty.applyAll call [.define "p" "x" ⟨1, 1⟩]).1.resolve "a$p" ⟨2, 1⟩ = .ok "ax" ∧
      (firstToken? "ax".toList = none ↔
        ¬ Seam ((pieces "a$p".toList).map
          (empty.applyAll call [.define "p" "x" ⟨1, 1⟩]).1.text)) := by
  have h : (empty.applyAll call [.define "p" "x" ⟨1, 1⟩]).1.resolve "a$p" ⟨2, 1⟩ = .ok "ax" := by
    decide +kernel
  exact ⟨h, resolve_token_iff _ _ _ _ h⟩

/-- A dollar sign that stands alone takes the value behind it for a name. -/
theorem resolve_makes_token :
    (empty.applyAll call [.define "p" "x" ⟨1, 1⟩]).1.resolve "$$p" ⟨2, 1⟩ = .ok "$x" ∧
      firstToken? "$x".toList = some ['x'] := by
  constructor
  · decide +kernel
  · decide +kernel

end SceneGraph.Parameter.Table
