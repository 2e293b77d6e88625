import SceneGraph.Proofs.Substitution

/-!
# The final values of parameters

Where neither a default nor an override is refused, every default element has one parameter,
with the value of the one override that names it, or else the value that the element states
(`settled_eq`).  No two of them share a name (`settled_nodup`).
-/

namespace SceneGraph.Parameter.Table

open Markup

/-- The name and the value that a default element states. -/
def stated? (e : Element) : Option (String × String) :=
  (e.attribute? "name").bind fun name => (e.attribute? "value").map fun value => (name, value)

/-- The value of the first override of a name. -/
def overriding? (overrides : List (String × String)) (name : String) : Option String :=
  (overrides.find? (·.1 = name)).map (·.2)

/-- The name and the final value of the parameter that a default element defines. -/
def finalSetting? (overrides : List (String × String)) (e : Element) : Option (String × String) :=
  (stated? e).map fun s => (s.1, (overriding? overrides s.1).getD s.2)

/-- What the first override of its name makes of a parameter. -/
def settle (overrides : List (String × String)) (p : Parameter) : Parameter :=
  match overrides.find? (·.1 = p.name) with
  | some o => assign o.1 o.2 p
  | none => p

/-! ## Changes that are not refused -/

theorem applyAll_cons_silent {α : Type} {change : Table → α → Reply} {t : Table}
    {a : α} {as : List α} (h : (t.applyAll change (a :: as)).2 = []) :
    ∃ t', change t a = .accepted t' ∧ t.applyAll change (a :: as) = t'.applyAll change as := by
  rw [applyAll] at h ⊢
  cases hchange : change t a with
  | accepted t' => exact ⟨t', rfl, rfl⟩
  | refused p t' =>
    rw [hchange] at h
    cases h

/-- A default that is accepted has a new name, and the parameter that it states. -/
theorem defineElement_accepted {t t' : Table} {e : Element}
    (h : t.defineElement e = .accepted t') :
    ∃ p, t' = t.push p ∧ stated? e = some (p.name, p.value) ∧ p.overridden = false ∧
      p.location = e.location ∧ t.find? p.name = none := by
  unfold defineElement at h
  split at h
  · next name value hname hvalue =>
    obtain ⟨-, hnew, -, rfl⟩ := define_accepted h
    refine ⟨⟨name, value, value, false, e.location⟩, rfl, ?_, rfl, rfl, hnew⟩
    simp [stated?, hname, hvalue]
  · cases h

theorem defineAll_parameters (es : List Element) : ∀ t : Table,
    (t.applyAll defineElement es).2 = [] →
    (t.applyAll defineElement es).1.parameters.map (fun p => some (p.name, p.value)) =
      t.parameters.map (fun p => some (p.name, p.value)) ++ es.map stated? := by
  induction es with
  | nil =>
    intro t _
    exact (List.append_nil _).symm
  | cons e es ih =>
    intro t h
    obtain ⟨t', hdefine, hrest⟩ := applyAll_cons_silent h
    obtain ⟨p, rfl, hstated, -⟩ := defineElement_accepted hdefine
    rw [hrest] at h ⊢
    rw [ih _ h, List.map_cons, hstated]
    simp [push]

/-- A parameter is overridden once. -/
theorem ne_of_overridden {name : String} (os : List (String × String)) : ∀ t : Table, t.InStep →
    (∀ p ∈ t.parameters, p.name = name → p.overridden = true) → (t.overrideAll os).2 = [] →
    ∀ o ∈ os, o.1 ≠ name := by
  induction os with
  | nil =>
    intro t _ _ _
    exact List.forall_mem_nil _
  | cons o os ih =>
    intro t ht hall h
    obtain ⟨t', hoverride, hrest⟩ := applyAll_cons_silent h
    have ht' := ht.override hoverride
    obtain ⟨p, hfind, hfirst, -, rfl⟩ := ht.override_accepted hoverride
    rw [overrideAll, hrest] at h
    refine List.forall_mem_cons.mpr ⟨?_, ih _ ht' ?_ h⟩
    · rintro rfl
      rw [hall p (ht.mem_of_find? hfind) (ht.name_of_find? hfind)] at hfirst
      cases hfirst
    · intro q hq hqname
      obtain ⟨q', hq', rfl⟩ := List.mem_map.mp hq
      rw [assign_name] at hqname
      unfold assign
      split
      · rfl
      · exact hall q' hq' hqname

/-- Overrides that are all accepted settle every parameter. -/
theorem overrideAll_parameters (os : List (String × String)) : ∀ t : Table, t.InStep →
    (t.overrideAll os).2 = [] →
    (t.overrideAll os).1.parameters = t.parameters.map (settle os) := by
  induction os with
  | nil =>
    intro t _ _
    exact (List.map_id _).symm
  | cons o os ih =>
    intro t ht h
    obtain ⟨t', hoverride, hrest⟩ := applyAll_cons_silent h
    have ht' := ht.override hoverride
    obtain ⟨-, -, -, -, rfl⟩ := ht.override_accepted hoverride
    rw [overrideAll, hrest] at h ⊢
    -- the parameter is overridden now, so no other override names it
    have honce : ∀ o' ∈ os, o'.1 ≠ o.1 := by
      refine ne_of_overridden os _ ht' ?_ h
      intro p hp hname
      obtain ⟨q, -, rfl⟩ := List.mem_map.mp hp
      rw [assign_name] at hname
      rw [assign, if_pos hname]
      rfl
    have hsettle : ∀ p : Parameter, settle os (assign o.1 o.2 p) = settle (o :: os) p := by
      intro p
      unfold settle
      rw [assign_name, List.find?_cons]
      by_cases hname : p.name = o.1
      · have hnone : os.find? (·.1 = p.name) = none := by
          rw [List.find?_eq_none]
          intro o' ho'
          simpa [hname] using honce o' ho'
        rw [hnone]
        simp [hname]
      · have hne : ¬ o.1 = p.name := fun h => hname h.symm
        rw [assign, if_neg hname]
        simp [hne]
    have hall := ih _ ht' h
    rw [overrideAll] at hall
    rw [hall, retouch, List.map_map]
    exact List.map_congr_left fun p _ => hsettle p

/-! ## All parameters -/

theorem settle_name (os : List (String × String)) (p : Parameter) :
    (settle os p).name = p.name := by
  unfold settle
  split
  · exact assign_name _ _ p
  · rfl

theorem settle_value (os : List (String × String)) (p : Parameter) :
    (settle os p).value = (overriding? os p.name).getD p.value := by
  unfold settle overriding?
  split
  · next o ho =>
    have hname : o.1 = p.name := by simpa using List.find?_some ho
    rw [ho, assign, if_pos hname.symm]
    rfl
  · next hnone =>
    rw [hnone]
    rfl

variable {root : Element} {overrides : List (String × String)}

/-- Every default element has its parameter, with its final value. -/
theorem settled_eq (hdefaults : (ofRoot root).2 = [])
    (hoverrides : ((ofRoot root).1.overrideAll overrides).2 = []) :
    ((ofRoot root).1.overrideAll overrides).1.parameters.map (fun p => some (p.name, p.value)) =
      (root.children.filter (·.tag = "default")).map (finalSetting? overrides) := by
  have hstated : (ofRoot root).1.parameters.map (fun p => some (p.name, p.value)) =
      (root.children.filter (·.tag = "default")).map stated? :=
    defineAll_parameters _ empty hdefaults
  have hfinal : finalSetting? overrides =
      Option.map (fun s => (s.1, (overriding? overrides s.1).getD s.2)) ∘ stated? := rfl
  rw [overrideAll_parameters overrides _ (inStep_ofRoot root) hoverrides, hfinal, ← List.map_map, ← hstated,
    List.map_map, List.map_map]
  apply List.map_congr_left
  intro p _
  simp [settle_name, settle_value]

theorem settled_nodup : ((ofRoot root).1.overrideAll overrides).1.names.Nodup :=
  (inStep_overrideAll (inStep_ofRoot root) overrides).nodup

end SceneGraph.Parameter.Table
