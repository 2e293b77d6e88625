import SceneGraph.Proofs.FinalValues

/-!
# Tables that differ in one parameter

A function that changes only what is kept for one name (`Retouches`) goes through defaults and
overrides of other names: they are refused for the same reasons, and what they make of the
changed table is the changed form of what they make of the table (`defineElement_retouch`,
`override_retouch`, and `applyAll_comm` for a run of them).
-/

namespace SceneGraph.Parameter.Table

open Markup

/-- At most the parameters called `p` change, and these keep their name and position. -/
structure Retouches (p : String) (f : Parameter → Parameter) : Prop where
  name : ∀ q, (f q).name = q.name
  location : ∀ q, (f q).location = q.location
  other : ∀ q, q.name ≠ p → f q = q

/-- The reply with another table in it. -/
def Reply.map (g : Table → Table) : Reply → Reply
  | accepted t => .accepted (g t)
  | refused p t => .refused p (g t)

theorem retouches_assign (p v : String) : Retouches p (assign p v) where
  name := assign_name p v
  location := by
    intro q
    unfold assign
    split <;> rfl
  other := fun _ hq => if_neg hq

/-! ## Runs of changes -/

theorem applyAll_append {α : Type} (change : Table → α → Reply) (as bs : List α) :
    ∀ t : Table, t.applyAll change (as ++ bs) =
      (((t.applyAll change as).1.applyAll change bs).1,
        (t.applyAll change as).2 ++ ((t.applyAll change as).1.applyAll change bs).2) := by
  induction as with
  | nil =>
    intro t
    rfl
  | cons a as ih =>
    intro t
    rw [List.cons_append, applyAll, applyAll]
    cases change t a with
    | accepted t' => exact ih t'
    | refused p t' => simp only [ih, List.cons_append]

/-- A change of tables that goes through each step of a run goes through the run. -/
theorem applyAll_comm {α : Type} {change : Table → α → Reply} (hatomic : Atomic change)
    {g : Table → Table} {P : Table → Prop} (as : List α)
    (hkeeps : ∀ a ∈ as, ∀ t t', P t → change t a = .accepted t' → P t')
    (hstep : ∀ a ∈ as, ∀ t, P t → change (g t) a = (change t a).map g) :
    ∀ t, P t → (g t).applyAll change as =
      (g (t.applyAll change as).1, (t.applyAll change as).2) := by
  induction as with
  | nil =>
    intro t _
    rfl
  | cons a as ih =>
    intro t ht
    have hrest := ih (fun b hb => hkeeps b (List.mem_cons_of_mem _ hb))
      fun b hb => hstep b (List.mem_cons_of_mem _ hb)
    rw [applyAll, applyAll, hstep a List.mem_cons_self t ht]
    cases hchange : change t a with
    | accepted t' => exact hrest t' (hkeeps a List.mem_cons_self t t' ht hchange)
    | refused p t' =>
      obtain rfl := hatomic t a p t' hchange
      simp only [Reply.map, hrest t' ht]

theorem overrideAll_append (t : Table) (as bs : List (String × String)) :
    t.overrideAll (as ++ bs) =
      (((t.overrideAll as).1.overrideAll bs).1,
        (t.overrideAll as).2 ++ ((t.overrideAll as).1.overrideAll bs).2) :=
  applyAll_append _ as bs t

theorem overrideAll_of_accepted {t t' : Table} {name value : String}
    (h : t.override name value = .accepted t') (os : List (String × String)) :
    t.overrideAll ((name, value) :: os) = t'.overrideAll os := by
  rw [overrideAll, applyAll]
  simp only [h]
  rfl

theorem overrideAll_of_refused {t t' : Table} {name value : String} {problem : Problem}
    (h : t.override name value = .refused problem t') (os : List (String × String)) :
    t.overrideAll ((name, value) :: os) =
      ((t.overrideAll os).1, problem :: (t.overrideAll os).2) := by
  obtain rfl := override_refused h
  rw [overrideAll, applyAll]
  simp only [h]
  rfl

/-! ## Look-up -/

variable {p : String} {f : Parameter → Parameter} {t : Table}

/-- The other names keep their values. -/
theorem get?_retouch (hf : Retouches p f) (ht : t.InStep) {name : String} (hname : name ≠ p) :
    (t.retouch f).get? name = t.get? name := by
  rw [get?, get?, ht.find?_retouch]
  cases hfind : t.find? name with
  | none => rfl
  | some q => rw [Option.map_some, hf.other q (by rw [ht.name_of_find? hfind]; exact hname)]

/-! ## Defaults -/

/-- A default of another name, or of a name that is taken. -/
theorem define_retouch (hf : Retouches p f) (ht : t.InStep) (hp : p ∈ t.names)
    (name value : String) (l : Location) :
    (t.retouch f).define name value l = (t.define name value l).map (retouch f) := by
  unfold define
  split
  · rfl
  · rw [ht.find?_retouch]
    cases hfind : t.find? name with
    | some first => simp only [Option.map_some, Reply.map, hf.location]
    | none =>
      have hname : name ≠ p := by
        rintro rfl
        exact ht.find?_eq_none_iff.mp hfind hp
      simp only [Option.map_none]
      cases tokenProblem? name value with
      | some problem => rfl
      | none => simp [Reply.map, push, retouch, hf.other ⟨name, value, value, false, l⟩ hname]

theorem defineElement_retouch (hf : Retouches p f) (ht : t.InStep) (hp : p ∈ t.names)
    (e : Element) : (t.retouch f).defineElement e = (t.defineElement e).map (retouch f) := by
  unfold defineElement
  split
  · exact define_retouch hf ht hp _ _ _
  · rfl

theorem mem_names_of_defineElement {t' : Table} {e : Element} (hp : p ∈ t.names)
    (h : t.defineElement e = .accepted t') : p ∈ t'.names := by
  obtain ⟨q, rfl, -⟩ := defineElement_accepted h
  rw [names_push]
  exact List.mem_append_left _ hp

/-! ## Overrides -/

/-- Changes for two names can be made in either order. -/
theorem retouch_comm {p' : String} {f' : Parameter → Parameter} (hf : Retouches p f)
    (hf' : Retouches p' f') (hp : p' ≠ p) :
    (t.retouch f).retouch f' = (t.retouch f').retouch f := by
  simp only [retouch, List.map_map]
  congr 1
  apply List.map_congr_left
  intro q _
  show f' (f q) = f (f' q)
  by_cases hq : q.name = p
  · have hne : q.name ≠ p' := by
      intro hq'
      exact hp (hq'.symm.trans hq)
    rw [hf'.other q hne, hf'.other (f q) (by rw [hf.name]; exact hne)]
  · rw [hf.other q hq, hf.other (f' q) (by rw [hf'.name]; exact hq)]

/-- An override of another name. -/
theorem override_retouch (hf : Retouches p f) (ht : t.InStep) {name : String} (hname : name ≠ p)
    (value : String) :
    (t.retouch f).override name value = (t.override name value).map (retouch f) := by
  rw [(ht.retouch hf.name).override_eq, ht.override_eq, ht.find?_retouch]
  cases hfind : t.find? name with
  | none => rfl
  | some q =>
    have hq : q.name ≠ p := by
      rw [ht.name_of_find? hfind]
      exact hname
    simp only [Option.map_some, hf.other q hq]
    split
    · rfl
    · cases tokenProblem? name value with
      | some problem => rfl
      | none =>
        exact congrArg Reply.accepted (retouch_comm hf (retouches_assign name value) hname)

end SceneGraph.Parameter.Table
