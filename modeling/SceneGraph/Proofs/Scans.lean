import SceneGraph.Parameter.Table
import SceneGraph.Proofs.Tokens

/-!
# Two scans that see the same tokens

The check of values looks for one token and stops at it; substitution goes on behind each token
until it meets one that has no value.  The two scan a text in loops of their own, and each loop is
followed here from one dollar sign to the next:

    the check finds the first token, or that there is none   (firstToken?_eq_some_iff, _none_iff)
    a text without tokens is left as it is                   (substitute_of_not_hasToken)
    the empty table refuses the first token                  (substitute_empty_eq_error_iff)

So what the one finds is what the other would replace (`check_iff_resolve`).
-/

namespace SceneGraph.Parameter

/-! ## A dollar sign and the name behind it -/

theorem of_idxOf?_dollar {cs : List Char} {i : Nat} (h : cs.idxOf? '$' = some i) :
    '$' ∉ cs.take i ∧ cs.take i ++ '$' :: cs.drop (i + 1) = cs := by
  obtain ⟨hi, hdollar, hfirst⟩ := List.idxOf?_eq_some_iff.mp h
  constructor
  · intro hmem
    obtain ⟨j, hj, heq⟩ := List.mem_take_iff_getElem.mp hmem
    exact hfirst j (by omega) heq
  · rw [← hdollar, ← List.drop_eq_getElem_cons hi, List.take_append_drop]

/-- What is measured behind a dollar sign is the run of name characters. -/
theorem take_nameLength (cs : List Char) :
    cs.take ((cs.findIdx? (!isNameChar ·)).getD cs.length) = cs.takeWhile isNameChar := by
  rw [List.takeWhile_eq_take_findIdx_not, List.findIdx_eq_getD_findIdx?]

theorem drop_nameLength (cs : List Char) :
    cs.drop ((cs.findIdx? (!isNameChar ·)).getD cs.length) = cs.dropWhile isNameChar := by
  rw [List.dropWhile_eq_drop_findIdx_not, List.findIdx_eq_getD_findIdx?]

theorem nameLength_pos_iff {cs : List Char} :
    0 < (cs.findIdx? (!isNameChar ·)).getD cs.length ↔ StartsName cs := by
  cases cs with
  | nil => simp [not_startsName_nil]
  | cons c cs =>
    rw [startsName_cons, ← List.findIdx_eq_getD_findIdx?, List.findIdx_cons]
    cases isNameChar c <;> simp

theorem nameLength_ne_zero_iff {cs : List Char} :
    (cs.findIdx? (!isNameChar ·)).getD cs.length ≠ 0 ↔ StartsName cs :=
  Nat.pos_iff_ne_zero.symm.trans nameLength_pos_iff

section

variable {cs : List Char} {i : Nat} (h : cs.idxOf? '$' = some i)

include h

theorem hasToken_iff_behind :
    HasToken cs ↔ StartsName (cs.drop (i + 1)) ∨ HasToken (cs.drop (i + 1)) := by
  obtain ⟨hbefore, hcs⟩ := of_idxOf?_dollar h
  have htoken : HasToken (_ ++ '$' :: cs.drop (i + 1)) ↔ _ := hasToken_dollar hbefore
  rwa [hcs] at htoken

theorem firstToken_iff_name (name : List Char) (hstart : StartsName (cs.drop (i + 1))) :
    FirstToken name cs ↔ (cs.drop (i + 1)).takeWhile isNameChar = name := by
  obtain ⟨hbefore, hcs⟩ := of_idxOf?_dollar h
  have hfound := firstToken_found hbefore name hstart
  rwa [hcs] at hfound

theorem firstToken_iff_behind (name : List Char) (hstart : ¬ StartsName (cs.drop (i + 1))) :
    FirstToken name cs ↔ FirstToken name (cs.drop (i + 1)) := by
  obtain ⟨hbefore, hcs⟩ := of_idxOf?_dollar h
  have hpassed := firstToken_passed hbefore name hstart
  rwa [hcs] at hpassed

end

/-! ## The check of values -/

/-- The token that is found is the first one, and its whole name. -/
theorem firstToken?_eq_some_iff (name cs : List Char) :
    firstToken? cs = some name ↔ FirstToken name cs := by
  fun_induction firstToken? cs with
  | case1 rest hnone =>
    have hno := not_hasToken_of_noDollar (List.idxOf?_eq_none_iff.mp hnone)
    exact iff_of_false (Option.some_ne_none name).symm fun h => hno h.hasToken
  | case2 rest dollar hdollar after length hlength =>
    rw [firstToken_iff_name hdollar name (nameLength_pos_iff.mp hlength), ← take_nameLength,
      Option.some.injEq]
  | case3 rest dollar hdollar after length hlength ih =>
    rw [firstToken_iff_behind hdollar name (mt nameLength_pos_iff.mpr hlength), ih]

/-- No token is found exactly when there is none. -/
theorem firstToken?_eq_none_iff (cs : List Char) : firstToken? cs = none ↔ ¬ HasToken cs := by
  rw [Option.eq_none_iff_forall_ne_some]
  constructor
  · intro hnone htoken
    obtain ⟨name, hfirst⟩ := exists_firstToken htoken
    exact hnone name ((firstToken?_eq_some_iff name cs).mpr hfirst)
  · intro hno name hsome
    exact hno ((firstToken?_eq_some_iff name cs).mp hsome).hasToken

namespace Table

/-! ## The loop of a substitution -/

theorem substituteFrom_of_not_hasToken (t : Table) (out rest : List Char) (h : ¬ HasToken rest) :
    t.substituteFrom out rest = .ok (out ++ rest) := by
  fun_induction substituteFrom t out rest with
  | case1 out rest hnone => rfl
  | case2 out rest dollar hdollar before after length hlength ih =>
    have hbehind : ¬ HasToken after := fun hafter =>
      h ((hasToken_iff_behind hdollar).mpr (.inr hafter))
    obtain ⟨-, hrest⟩ := of_idxOf?_dollar hdollar
    rw [ih hbehind, ← hrest]
    simp [before, after]
  | case3 out rest dollar hdollar before after length hlength value hvalue ih =>
    exact absurd ((hasToken_iff_behind hdollar).mpr (.inl (nameLength_ne_zero_iff.mp hlength))) h
  | case4 out rest dollar hdollar after length hlength hvalue =>
    exact absurd ((hasToken_iff_behind hdollar).mpr (.inl (nameLength_ne_zero_iff.mp hlength))) h

theorem get?_empty (name : String) : empty.get? name = none := by
  simp [get?, find?, empty]

theorem substituteFrom_empty_eq_error_iff (name out rest : List Char) :
    empty.substituteFrom out rest = .error name ↔ FirstToken name rest := by
  fun_induction substituteFrom empty out rest with
  | case1 out rest hnone =>
    have hno := not_hasToken_of_noDollar (List.idxOf?_eq_none_iff.mp hnone)
    exact iff_of_false nofun fun h => hno h.hasToken
  | case2 out rest dollar hdollar before after length hlength ih =>
    have hstart : ¬ StartsName after := fun hstart => nameLength_ne_zero_iff.mpr hstart hlength
    rw [firstToken_iff_behind hdollar name hstart, ih]
  | case3 out rest dollar hdollar before after length hlength value hvalue ih =>
    rw [get?_empty] at hvalue
    cases hvalue
  | case4 out rest dollar hdollar after length hlength hvalue =>
    rw [firstToken_iff_name hdollar name (nameLength_ne_zero_iff.mp hlength), ← take_nameLength,
      Except.error.injEq]

/-! ## Substitution -/

/-- Without a dollar sign the loop has nothing to do. -/
theorem substitute_eq_substituteFrom (t : Table) (cs : List Char) :
    t.substitute cs = t.substituteFrom [] cs := by
  unfold substitute
  split
  · rfl
  · next hno =>
    have hdollar : '$' ∉ cs := by simpa using hno
    exact (t.substituteFrom_of_not_hasToken [] cs (not_hasToken_of_noDollar hdollar)).symm

theorem substitute_of_not_hasToken (t : Table) {cs : List Char} (h : ¬ HasToken cs) :
    t.substitute cs = .ok cs := by
  rw [substitute_eq_substituteFrom, substituteFrom_of_not_hasToken t [] cs h, List.nil_append]

theorem substitute_empty_eq_error_iff (name cs : List Char) :
    empty.substitute cs = .error name ↔ FirstToken name cs := by
  rw [substitute_eq_substituteFrom, substituteFrom_empty_eq_error_iff]

theorem resolve_eq_ok_iff {t : Table} {raw out : String} {l : Location} :
    t.resolve raw l = .ok out ↔ t.substitute raw.toList = .ok out.toList := by
  unfold resolve
  cases t.substitute raw.toList with
  | ok cs => simp [← String.toList_inj]
  | error name => simp

theorem resolve_eq_undefined_iff {t : Table} {raw name : String} {l : Location} :
    t.resolve raw l = .error (.undefinedParameter name l) ↔
      t.substitute raw.toList = .error name.toList := by
  unfold resolve
  cases t.substitute raw.toList with
  | ok cs => simp
  | error cs => simp [← String.toList_inj]

theorem resolve_of_not_hasToken (t : Table) {raw : String} (l : Location)
    (h : ¬ HasToken raw.toList) : t.resolve raw l = .ok raw :=
  resolve_eq_ok_iff.mpr (t.substitute_of_not_hasToken h)

/-- A text without tokens is what no table changes or refuses. -/
theorem not_hasToken_iff_resolve (raw : String) (l : Location) :
    ¬ HasToken raw.toList ↔ ∀ t : Table, t.resolve raw l = .ok raw := by
  refine ⟨fun h t => t.resolve_of_not_hasToken l h, fun h htoken => ?_⟩
  obtain ⟨name, hfirst⟩ := exists_firstToken htoken
  have hrefused := (substitute_empty_eq_error_iff name raw.toList).mpr hfirst
  rw [resolve_eq_ok_iff.mp (h empty)] at hrefused
  cases hrefused

/-- The first token of a text is the one that the empty table refuses. -/
theorem firstToken_iff_resolve (raw name : String) (l : Location) :
    FirstToken name.toList raw.toList ↔
      empty.resolve raw l = .error (.undefinedParameter name l) := by
  rw [resolve_eq_undefined_iff, substitute_empty_eq_error_iff]

/-! ## Accepted values -/

theorem tokenProblem?_eq_none_iff {name value : String} :
    tokenProblem? name value = none ↔ ¬ HasToken value.toList := by
  rw [tokenProblem?, Option.map_eq_none_iff, firstToken?_eq_none_iff]

theorem define_accepted_iff (t : Table) (name value : String) (l : Location) :
    (∃ t', t.define name value l = .accepted t') ↔
      isName name.toList = true ∧ t.find? name = none ∧ ¬ HasToken value.toList := by
  rw [← @tokenProblem?_eq_none_iff name]
  constructor
  · rintro ⟨t', h⟩
    obtain ⟨hname, hnew, hvalue, -⟩ := define_accepted h
    exact ⟨hname, hnew, hvalue⟩
  · rintro ⟨hname, hnew, hvalue⟩
    simp [define, hname, hnew, hvalue]

theorem override_accepted_iff (t : Table) (name value : String) :
    (∃ t', t.override name value = .accepted t') ↔
      (∃ p, t.find? name = some p ∧ p.overridden = false) ∧ ¬ HasToken value.toList := by
  rw [← @tokenProblem?_eq_none_iff name]
  constructor
  · rintro ⟨t', h⟩
    obtain ⟨i, hi, hfirst, hvalue, -⟩ := override_accepted h
    exact ⟨⟨t.parameters[i]!, by rw [find?, hi, Option.map_some], hfirst⟩, hvalue⟩
  · rintro ⟨⟨p, hp, hfirst⟩, hvalue⟩
    obtain ⟨i, hi, rfl⟩ := Option.map_eq_some_iff.mp hp
    exact ⟨_, override_of_index hi hfirst hvalue⟩

/-- **The check of values and the substitution of texts see the same tokens.**  What the check
finds is the first token, and what the empty table refuses.  It finds none exactly where no table
changes or refuses the text; so these, and no others, are the values that can be given to a
parameter. -/
theorem check_iff_resolve (v : String) (l : Location) :
    (firstToken? v.toList = none ↔ ∀ t : Table, t.resolve v l = .ok v) ∧
    (∀ token : String, firstToken? v.toList = some token.toList ↔
      empty.resolve v l = .error (.undefinedParameter token l)) ∧
    (∀ token : String, firstToken? v.toList = some token.toList ↔
      FirstToken token.toList v.toList) ∧
    (∀ (t : Table) (name : String), (∃ t', t.define name v l = .accepted t') ↔
      isName name.toList = true ∧ t.find? name = none ∧ ∀ u : Table, u.resolve v l = .ok v) ∧
    ∀ (t : Table) (name : String), (∃ t', t.override name v = .accepted t') ↔
      (∃ p, t.find? name = some p ∧ p.overridden = false) ∧ ∀ u : Table, u.resolve v l = .ok v := by
  have hnone := not_hasToken_iff_resolve v l
  refine ⟨?_, fun token => ?_, fun token => firstToken?_eq_some_iff _ _, fun t name => ?_,
    fun t name => ?_⟩
  · rw [firstToken?_eq_none_iff, hnone]
  · rw [firstToken?_eq_some_iff, firstToken_iff_resolve]
  · rw [define_accepted_iff, hnone]
  · rw [override_accepted_iff, hnone]

end Table

end SceneGraph.Parameter
