import SceneGraph.Proofs.Pieces

/-!
# What substitution does to a text

Two texts are substituted one after the other, unless the seam between them tears a token
(`resolve_append`).  With the text of a single token and of what is none, this says all there is
to say about substitution: no other function has these properties (`substitutes_iff`).
-/

namespace SceneGraph.Parameter

/-- A character that starts no token is not torn from what follows. -/
theorem not_tearsToken_char {c : Char} {cs : List Char} (h : ¬ (c = '$' ∧ StartsName cs)) :
    ¬ TearsToken [c] cs := by
  rintro ⟨⟨before, run, hopen, -⟩, hstart⟩
  cases before with
  | nil => exact h ⟨(List.cons.inj hopen).1, hstart⟩
  | cons b before => simp at hopen

namespace Table

/-- A function that works part by part, and replaces single tokens by their values. -/
structure Substitutes (t : Table) (l : Location) (f : String → Except Problem String) :
    Prop where
  append : ∀ a b : String, ¬ TearsToken a.toList b.toList → f (a ++ b) = joined (f a) (f b)
  plain : ∀ s : String, '$' ∉ s.toList → f s = .ok s
  dollar : f "$" = .ok "$"
  token : ∀ name : String, isName name.toList = true → f ("$" ++ name) =
    match t.get? name with
    | some value => .ok value
    | none => .error (.undefinedParameter name l)

/-! ## Part by part -/

theorem substitute_append (t : Table) {xs ys : List Char} (h : ¬ TearsToken xs ys) :
    t.substitute (xs ++ ys) = joined (t.substitute xs) (t.substitute ys) := by
  simp only [substitute_eq_expandAll, pieces_append xs ys h, expandAll_append]

theorem resolve_append (t : Table) (l : Location) {a b : String}
    (h : ¬ TearsToken a.toList b.toList) :
    t.resolve (a ++ b) l = joined (t.resolve a l) (t.resolve b l) := by
  unfold resolve
  rw [String.toList_append, substitute_append t h]
  cases t.substitute a.toList with
  | error name => rfl
  | ok cs =>
    cases t.substitute b.toList with
    | error name => rfl
    | ok ds => simp [joined, String.ofList_append]

theorem resolve_token (t : Table) (l : Location) {name : String}
    (h : isName name.toList = true) : t.resolve ("$" ++ name) l =
      match t.get? name with
      | some value => .ok value
      | none => .error (.undefinedParameter name l) := by
  obtain ⟨htake, hdrop⟩ := span_name h not_startsName_nil
  rw [List.append_nil] at htake hdrop
  have hpieces : pieces ("$" ++ name).toList = [.token name.toList] := by
    rw [String.toList_append, show "$".toList = ['$'] from rfl, List.singleton_append,
      pieces_token (startsName_of_isName h), htake, hdrop, pieces_nil]
  rw [resolve, substitute_eq_expandAll, hpieces, expandAll, expand, String.ofList_toList]
  cases t.get? name with
  | none => simp [joined]
  | some value => simp [joined, expandAll]

theorem substitutes_resolve (t : Table) (l : Location) : t.Substitutes l (t.resolve · l) where
  append a b h := t.resolve_append l h
  plain s hs := t.resolve_of_not_hasToken l (not_hasToken_of_noDollar hs)
  dollar := t.resolve_of_not_hasToken l ((firstToken?_eq_none_iff _).mp (by cbv))
  token name h := t.resolve_token l h

/-- Two functions that substitute agree on every text, piece by piece. -/
theorem Substitutes.unique {t : Table} {l : Location} {f g : String → Except Problem String}
    (hf : t.Substitutes l f) (hg : t.Substitutes l g) (cs : List Char) :
    f (String.ofList cs) = g (String.ofList cs) := by
  fun_induction pieces cs with
  | case1 => rw [hf.plain _ (by simp), hg.plain _ (by simp)]
  | case2 c cs hc ih =>
    obtain ⟨rfl, hname⟩ := hc
    have hsplit : String.ofList ('$' :: cs) = ("$" ++ String.ofList (cs.takeWhile isNameChar)) ++
        String.ofList (cs.dropWhile isNameChar) := by
      simp [← String.toList_inj]
    have htoken : isName (String.ofList (cs.takeWhile isNameChar)).toList = true := by
      rw [String.toList_ofList]
      exact isName_takeWhile (takeWhile_ne_nil_iff.mp hname)
    have hseam : ¬ TearsToken ("$" ++ String.ofList (cs.takeWhile isNameChar)).toList
        (String.ofList (cs.dropWhile isNameChar)).toList := by
      rw [String.toList_ofList]
      exact fun htorn => not_startsName_dropWhile cs htorn.2
    rw [hsplit, hf.append _ _ hseam, hg.append _ _ hseam, hf.token _ htoken, hg.token _ htoken, ih]
  | case3 c cs hc ih =>
    rw [takeWhile_ne_nil_iff] at hc
    have hsplit : String.ofList (c :: cs) = String.ofList [c] ++ String.ofList cs := by simp
    have hseam : ¬ TearsToken (String.ofList [c]).toList (String.ofList cs).toList := by
      rw [String.toList_ofList, String.toList_ofList]
      exact not_tearsToken_char hc
    have hchar : f (String.ofList [c]) = g (String.ofList [c]) := by
      by_cases hdollar : c = '$'
      · subst hdollar
        exact hf.dollar.trans hg.dollar.symm
      · have hplain : '$' ∉ (String.ofList [c]).toList := by simpa [eq_comm] using hdollar
        rw [hf.plain _ hplain, hg.plain _ hplain]
    rw [hsplit, hf.append _ _ hseam, hg.append _ _ hseam, hchar, ih]

/-- **Substitution is determined by what it does to single tokens and to what is none**: it is the
one function that leaves texts without dollar signs, and a dollar sign by itself, as they are,
replaces a token by the value of its parameter, and works part by part where no token is torn. -/
theorem substitutes_iff (t : Table) (l : Location) (f : String → Except Problem String) :
    t.Substitutes l f ↔ f = (t.resolve · l) := by
  constructor
  · intro hf
    funext s
    have h := hf.unique (t.substitutes_resolve l) s.toList
    rwa [String.ofList_toList] at h
  · rintro rfl
    exact t.substitutes_resolve l

end Table

end SceneGraph.Parameter
