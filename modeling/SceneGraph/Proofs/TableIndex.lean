import Mathlib.Data.List.Nodup
import SceneGraph.Preamble

/-!
# A table and its index

A table keeps its parameters in a list and the places of their names in an index.  The two are in
step (`InStep`) when the index has the place of every name in the list, and nothing else.  Then no
look-up leads past the end of the list or to another name, a look-up finds the one parameter with
the name (`InStep.find?_eq_some_iff`), and an override reaches this one and no other
(`InStep.override_accepted`).

    an accepted call keeps the two in step    (InStep.define, InStep.override)
    a refused call leaves both as they were   (define_refused, override_refused)
    so a run of calls keeps them in step      (inStep_applyAll_call)
-/

namespace SceneGraph.Parameter.Table

open Markup

/-- A call that changes a table. -/
inductive Call where
  | define (name value : String) (l : Location)
  | override (name value : String)

def call (t : Table) : Call → Reply
  | .define name value l => t.define name value l
  | .override name value => t.override name value

def names (t : Table) : List String := t.parameters.map (·.name)

/-- The index has the place of every name, and of nothing else. -/
def InStep (t : Table) : Prop :=
  ∀ (name : String) (i : Nat), t.index[name]? = some i ↔ t.names[i]? = some name

/-- Where the change is refused, it leaves the table as it was. -/
def Atomic {α : Type} (change : Table → α → Reply) : Prop :=
  ∀ t a p t', change t a = .refused p t' → t' = t

/-- The table with every parameter changed in its place. -/
def retouch (f : Parameter → Parameter) (t : Table) : Table :=
  { t with parameters := t.parameters.map f }

/-- Gives the parameter called `name` a new value. -/
def assign (name value : String) (p : Parameter) : Parameter :=
  if p.name = name then p.overrideWith value else p

/-! ## Names -/

theorem assign_name (name value : String) (p : Parameter) :
    (assign name value p).name = p.name := by
  unfold assign
  split <;> rfl

theorem names_push (t : Table) (p : Parameter) : (t.push p).names = t.names ++ [p.name] :=
  List.map_append

theorem names_retouch {f : Parameter → Parameter} (hf : ∀ q, (f q).name = q.name) (t : Table) :
    (t.retouch f).names = t.names := by
  simp only [names, retouch, List.map_map, Function.comp_def, hf]

theorem getElem?_names_eq_some_iff {t : Table} {name : String} {i : Nat} :
    t.names[i]? = some name ↔ ∃ p, t.parameters[i]? = some p ∧ p.name = name := by
  rw [names, List.getElem?_map, Option.map_eq_some_iff]

/-- A name of the longer table is an old one in its place, or the new one behind them. -/
theorem getElem?_names_push {t : Table} {p : Parameter} {name : String} {i : Nat} :
    (t.push p).names[i]? = some name ↔
      t.names[i]? = some name ∨ i = t.parameters.length ∧ p.name = name := by
  have hlength : t.names.length = t.parameters.length := List.length_map _
  rw [names_push, ← hlength]
  rcases Nat.lt_trichotomy i t.names.length with hi | hi | hi
  · rw [List.getElem?_append_left hi, or_iff_left fun hpush => Nat.ne_of_lt hi hpush.1]
  · have hold : t.names[i]? = none := List.getElem?_eq_none (by omega)
    rw [hold, hi, List.getElem?_concat_length]
    simp
  · have hold : t.names[i]? = none := List.getElem?_eq_none (by omega)
    have hnew : (t.names ++ [p.name])[i]? = none := by
      refine List.getElem?_eq_none ?_
      rw [List.length_append, List.length_singleton]
      omega
    rw [hold, hnew, or_iff_right nofun]
    exact iff_of_false nofun fun hpush => Nat.ne_of_gt hi hpush.1

/-! ## What being in step means for look-ups -/

theorem inStep_empty : empty.InStep := by
  intro name i
  simp [empty, names]

namespace InStep

variable {t : Table} (h : t.InStep)

include h

theorem nodup : t.names.Nodup := by
  refine List.pairwise_iff_getElem.mpr fun i j hi hj hij heq => ?_
  have hplace := (h _ i).mpr (List.getElem?_eq_getElem hi)
  have hplace' := (h _ j).mpr (List.getElem?_eq_getElem hj)
  rw [heq, hplace'] at hplace
  exact absurd (Option.some.inj hplace) (by omega)

theorem index_eq_none_iff {name : String} : t.index[name]? = none ↔ name ∉ t.names := by
  rw [Option.eq_none_iff_forall_ne_some, List.mem_iff_getElem?, not_exists]
  exact forall_congr' fun i => not_congr (h name i)

/-- The entry at the place of a name has the name. -/
theorem getElem?_of_index {name : String} {i : Nat} (hi : t.index[name]? = some i) :
    ∃ p, t.parameters[i]? = some p ∧ t.find? name = some p ∧ p.name = name := by
  obtain ⟨p, hp, hname⟩ := getElem?_names_eq_some_iff.mp ((h name i).mp hi)
  refine ⟨p, hp, ?_, hname⟩
  rw [find?, hi, Option.map_some, List.getElem!_of_getElem? hp]

/-- A look-up finds the one parameter with the name. -/
theorem find?_eq_some_iff {name : String} {p : Parameter} :
    t.find? name = some p ↔ p ∈ t.parameters ∧ p.name = name := by
  constructor
  · intro hfind
    obtain ⟨i, hi, -⟩ := Option.map_eq_some_iff.mp hfind
    obtain ⟨q, hq, hfind', hname⟩ := h.getElem?_of_index hi
    obtain rfl := Option.some.inj (hfind.symm.trans hfind')
    exact ⟨List.mem_of_getElem? hq, hname⟩
  · rintro ⟨hp, hname⟩
    obtain ⟨i, hi⟩ := List.mem_iff_getElem?.mp hp
    have hplace := (h name i).mpr (getElem?_names_eq_some_iff.mpr ⟨p, hi, hname⟩)
    obtain ⟨q, hq, hfind, -⟩ := h.getElem?_of_index hplace
    obtain rfl := Option.some.inj (hi.symm.trans hq)
    exact hfind

theorem name_of_find? {name : String} {p : Parameter} (hfind : t.find? name = some p) :
    p.name = name := (h.find?_eq_some_iff.mp hfind).2

theorem mem_of_find? {name : String} {p : Parameter} (hfind : t.find? name = some p) :
    p ∈ t.parameters := (h.find?_eq_some_iff.mp hfind).1

theorem find?_isSome_iff {name : String} : (t.find? name).isSome ↔ name ∈ t.names := by
  rw [find?, Option.isSome_map, ← not_iff_not, Option.not_isSome_iff_eq_none,
    h.index_eq_none_iff]

theorem find?_eq_none_iff {name : String} : t.find? name = none ↔ name ∉ t.names := by
  rw [← h.find?_isSome_iff, Option.not_isSome_iff_eq_none]

/-- To look a name up is to search the list for it. -/
theorem find?_eq (name : String) : t.find? name = t.parameters.find? (·.name = name) := by
  cases hsearch : t.parameters.find? (·.name = name) with
  | none =>
    rw [h.find?_eq_none_iff]
    intro hmem
    obtain ⟨p, hp, hname⟩ := List.mem_map.mp hmem
    exact List.find?_eq_none.mp hsearch p hp (by simpa using hname)
  | some p =>
    have hname : p.name = name := by simpa using List.find?_some hsearch
    exact h.find?_eq_some_iff.mpr ⟨List.mem_of_find?_eq_some hsearch, hname⟩

/-- The value of a name is read off the list of names and values. -/
theorem get?_eq (name : String) : t.get? name =
    ((t.parameters.map fun q => (q.name, q.value)).find? (·.1 = name)).map (·.2) := by
  rw [get?, h.find?_eq, List.find?_map, Option.map_map]
  rfl

theorem find?_retouch (f : Parameter → Parameter) (name : String) :
    (t.retouch f).find? name = (t.find? name).map f := by
  have hindex : (t.retouch f).index = t.index := rfl
  rw [find?, find?, hindex]
  cases hi : t.index[name]? with
  | none => rfl
  | some i =>
    obtain ⟨p, hp, -⟩ := h.getElem?_of_index hi
    have hp' : (t.retouch f).parameters[i]? = some (f p) := by
      rw [retouch, List.getElem?_map, hp, Option.map_some]
    rw [Option.map_some, Option.map_some, Option.map_some, List.getElem!_of_getElem? hp,
      List.getElem!_of_getElem? hp']

/-! ## What one call does to the index -/

theorem push {p : Parameter} (hnew : p.name ∉ t.names) : (t.push p).InStep := by
  intro name i
  have hindex : (t.push p).index[name]? =
      if p.name = name then some t.parameters.length else t.index[name]? := by
    rw [Table.push, Std.TreeMap.getElem?_insert]
    simp
  rw [hindex, getElem?_names_push]
  by_cases hname : p.name = name
  · subst hname
    have hold : t.names[i]? ≠ some p.name := fun heq => hnew (List.mem_of_getElem? heq)
    rw [if_pos rfl, Option.some.injEq, or_iff_right hold, and_iff_left rfl, eq_comm]
  · rw [if_neg hname, h name i, or_iff_left fun hpush => hname hpush.2]

theorem retouch {f : Parameter → Parameter} (hf : ∀ q, (f q).name = q.name) :
    (t.retouch f).InStep := by
  intro name i
  rw [names_retouch hf]
  exact h name i

/-- To change the entry at the place of a name is to change what has the name. -/
theorem modify_eq_map {name : String} {i : Nat} (hi : t.index[name]? = some i)
    (f : Parameter → Parameter) :
    t.parameters.modify i f = t.parameters.map fun p => if p.name = name then f p else p := by
  apply List.ext_getElem?
  intro j
  rw [List.getElem?_modify, List.getElem?_map]
  cases hp : t.parameters[j]? with
  | none => rfl
  | some p =>
    have hsame : i = j ↔ p.name = name := by
      have hplace := h name j
      rw [hi, Option.some.injEq, getElem?_names_eq_some_iff, hp] at hplace
      simpa using hplace
    simp [hsame]

/-- An override through the index is an override of what has the name. -/
theorem override_eq (name value : String) : t.override name value =
    match t.find? name with
    | none => .refused (.unknownParameter name) t
    | some p =>
      if p.overridden then .refused (.duplicateOverride name) t
      else
        match tokenProblem? name value with
        | some problem => .refused problem t
        | none => .accepted (t.retouch (assign name value)) := by
  rw [Table.override, find?]
  cases hi : t.index[name]? with
  | none => rfl
  | some i =>
    dsimp only
    rw [h.modify_eq_map hi]
    rfl

/-- What an accepted override has passed, and what it makes. -/
theorem override_accepted {t' : Table} {name value : String}
    (hcall : t.override name value = .accepted t') :
    ∃ p, t.find? name = some p ∧ p.overridden = false ∧ tokenProblem? name value = none ∧
      t' = t.retouch (assign name value) := by
  rw [h.override_eq] at hcall
  split at hcall
  · cases hcall
  · next p hp =>
    split at hcall
    · cases hcall
    · next hfree =>
      split at hcall
      · cases hcall
      · next hvalue =>
        exact ⟨p, hp, Bool.eq_false_iff.mpr hfree, hvalue, (Reply.accepted.inj hcall).symm⟩

theorem define {t' : Table} {name value : String} {l : Location}
    (hcall : t.define name value l = .accepted t') : t'.InStep := by
  obtain ⟨-, hnew, -, rfl⟩ := define_accepted hcall
  exact h.push (h.find?_eq_none_iff.mp hnew)

theorem override {t' : Table} {name value : String}
    (hcall : t.override name value = .accepted t') : t'.InStep := by
  obtain ⟨-, -, -, -, rfl⟩ := h.override_accepted hcall
  exact h.retouch (assign_name name value)

theorem defineElement {t' : Table} {e : Element} (hcall : t.defineElement e = .accepted t') :
    t'.InStep := by
  unfold Table.defineElement at hcall
  split at hcall
  · exact h.define hcall
  · cases hcall

/-- An accepted call keeps the list and the index in step. -/
theorem call {t' : Table} {c : Call} (hcall : t.call c = .accepted t') : t'.InStep := by
  cases c with
  | define name value l => exact h.define hcall
  | override name value => exact h.override hcall

end InStep

/-! ## Refused calls -/

theorem atomic_call : Atomic call := by
  intro t c p t' h
  cases c with
  | define name value l => exact define_refused h
  | override name value => exact override_refused h

theorem atomic_override : Atomic fun t (o : String × String) => t.override o.1 o.2 :=
  fun _ _ _ _ h => override_refused h

theorem atomic_defineElement : Atomic defineElement := by
  intro t e p t' h
  unfold defineElement at h
  split at h
  · exact define_refused h
  · exact (Reply.refused.inj h).2.symm

theorem override_unknown {t : Table} {name : String} (h : t.find? name = none) (value : String) :
    t.override name value = .refused (.unknownParameter name) t := by
  have hindex : t.index[name]? = none := Option.map_eq_none_iff.mp h
  simp only [override, hindex]

theorem override_overridden {t : Table} {name : String} {p : Parameter}
    (h : t.find? name = some p) (htaken : p.overridden = true) (value : String) :
    t.override name value = .refused (.duplicateOverride name) t := by
  obtain ⟨i, hi, rfl⟩ := Option.map_eq_some_iff.mp h
  simp only [override, hi, htaken, if_true]

/-! ## Runs of calls -/

section

variable {α : Type} {change : Table → α → Reply}

/-- What each accepted change of a run keeps, the run keeps. -/
theorem applyAll_preserves_of_mem (hatomic : Atomic change) {P : Table → Prop} (as : List α)
    (hstep : ∀ a ∈ as, ∀ t t', P t → change t a = .accepted t' → P t') :
    ∀ t : Table, P t → P (t.applyAll change as).1 := by
  induction as with
  | nil =>
    intro t ht
    exact ht
  | cons a as ih =>
    intro t ht
    have hrest := ih fun b hb => hstep b (List.mem_cons_of_mem _ hb)
    unfold applyAll
    cases hchange : change t a with
    | accepted t' => exact hrest t' (hstep a List.mem_cons_self t t' ht hchange)
    | refused p t' =>
      obtain rfl := hatomic t a p t' hchange
      exact hrest t' ht

/-- What every accepted change keeps, a run of changes keeps. -/
theorem applyAll_preserves (hatomic : Atomic change) {P : Table → Prop}
    (hstep : ∀ t a t', P t → change t a = .accepted t' → P t') (as : List α) :
    ∀ t : Table, P t → P (t.applyAll change as).1 :=
  applyAll_preserves_of_mem hatomic as fun a _ t t' => hstep t a t'

end

/-- A run of calls keeps the list and the index in step. -/
theorem inStep_applyAll_call (calls : List Call) (t : Table) (h : t.InStep) :
    (t.applyAll call calls).1.InStep :=
  applyAll_preserves atomic_call (fun _ _ _ h => h.call) calls t h

theorem inStep_defineAll (es : List Element) (t : Table) (h : t.InStep) :
    (t.applyAll defineElement es).1.InStep :=
  applyAll_preserves atomic_defineElement (fun _ _ _ h => h.defineElement) es t h

theorem inStep_ofRoot (root : Element) : (ofRoot root).1.InStep :=
  inStep_defineAll _ empty inStep_empty

theorem inStep_overrideAll {t : Table} (h : t.InStep) (os : List (String × String)) :
    (t.overrideAll os).1.InStep :=
  applyAll_preserves atomic_override (fun _ _ _ h => h.override) os t h

end SceneGraph.Parameter.Table
