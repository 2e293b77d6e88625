import Mathlib.Data.List.Forall2
import SceneGraph.Node.Reader

/-!
# Without a problem there is a value

A checked computation may leave its value out only together with a report (`Reports`).  Where it
reports nothing, it can therefore be taken apart into its steps: `silent_bind` gives the value
of the first step and that the next one is silent too.

`Reports` goes from the parts of a computation to the whole as a class, so that it is found for
a reader by going through its definition.  A list of computations goes part by part: its reports
are those of the parts (`problems_all`), and it has values if each part has (`value?_all_iff`).
-/

namespace SceneGraph

open Markup

namespace Checked

variable {α β : Type}

/-- A computation that has a value unless it reports a problem. -/
class Reports (c : Checked α) : Prop where
  exists_of_silent : c.problems = [] → ∃ a, c = of a

theorem eq_of {c : Checked α} {a : α} (hvalue : c.value? = some a) (hproblems : c.problems = []) :
    c = of a := by
  cases c
  simp_all [of]

instance reports_of (a : α) : Reports (of a) := ⟨fun _ => ⟨a, rfl⟩⟩

instance reports_pure (a : α) : Reports (pure a : Checked α) := reports_of a

instance reports_fail (p : Problem) : Reports (fail p : Checked α) := ⟨fun h => by cases h⟩

instance reports_ofExcept (r : Except Problem α) : Reports (ofExcept r) := by
  cases r with
  | ok a => exact reports_of a
  | error p => exact reports_fail p

/-- The first step of a silent computation is silent. -/
theorem silent_first {c : Checked α} {f : α → Checked β} (h : (c >>= f).problems = []) :
    c.problems = [] := by
  rw [bind_eq, andThen] at h
  split at h
  · exact h
  · exact (List.append_eq_nil_iff.mp h).1

/-- The first step of a silent computation has a value, and the next is silent. -/
theorem silent_bind {c : Checked α} {f : α → Checked β} [hc : Reports c]
    (h : (c >>= f).problems = []) : ∃ a, c = of a ∧ (f a).problems = [] := by
  rw [bind_eq, andThen] at h
  split at h
  · next hnone =>
    obtain ⟨a, rfl⟩ := hc.exists_of_silent h
    cases hnone
  · next a hsome =>
    obtain ⟨hfirst, hnext⟩ := List.append_eq_nil_iff.mp h
    exact ⟨a, eq_of hsome hfirst, hnext⟩

instance reports_bind (c : Checked α) (f : α → Checked β) [Reports c] [∀ a, Reports (f a)] :
    Reports (c >>= f) := by
  refine ⟨fun h => ?_⟩
  obtain ⟨a, rfl, hnext⟩ := silent_bind h
  exact Reports.exists_of_silent (c := f a) hnext

instance reports_both (c : Checked α) (d : Checked β) [hc : Reports c] [hd : Reports d] :
    Reports (c.both d) := by
  refine ⟨fun h => ?_⟩
  obtain ⟨hfirst, hsecond⟩ := List.append_eq_nil_iff.mp h
  obtain ⟨a, rfl⟩ := hc.exists_of_silent hfirst
  obtain ⟨b, rfl⟩ := hd.exists_of_silent hsecond
  exact ⟨(a, b), rfl⟩

/-- There are values exactly if each part has one. -/
theorem value?_all_iff {cs : List (Checked α)} {as : List α} :
    (all cs).value? = some as ↔ List.Forall₂ (fun c a => c.value? = some a) cs as := by
  induction cs generalizing as with
  | nil => simp [all, of, eq_comm]
  | cons c cs ih =>
    have hcons : (all (c :: cs)).value? =
        c.value?.bind fun a => (all cs).value?.map fun as => a :: as := by
      simp only [all, andThen, both]
      cases c.value? <;> cases (all cs).value? <;> rfl
    rw [hcons, List.forall₂_cons_left_iff, Option.bind_eq_some_iff]
    simp only [Option.map_eq_some_iff, ih]
    constructor
    · rintro ⟨a, ha, as, has, rfl⟩
      exact ⟨a, as, ha, has, rfl⟩
    · rintro ⟨a, as, ha, has, rfl⟩
      exact ⟨a, ha, as, has, rfl⟩

/-- All parts of a computation report, in order. -/
theorem problems_all (cs : List (Checked α)) : (all cs).problems = cs.flatMap (·.problems) := by
  induction cs with
  | nil => rfl
  | cons c cs ih =>
    have hcons : (all (c :: cs)).problems = c.problems ++ (all cs).problems := by
      rw [all, andThen]
      split
      · rfl
      · exact List.append_nil _
    rw [hcons, ih, List.flatMap_cons]

/-- All parts of a silent computation are silent. -/
theorem silent_of_mem {cs : List (Checked α)} (h : (all cs).problems = []) :
    ∀ c ∈ cs, c.problems = [] := by
  rw [problems_all, List.flatMap_eq_nil_iff] at h
  exact h

end Checked

/-! ## Attributes and heads of nodes -/

variable {params : Parameter.Table} {e : Element}

instance Attribute.reports_value? (name : String) :
    Checked.Reports (Attribute.value? params e name) := by
  unfold Attribute.value?
  split <;> infer_instance

instance Attribute.reports_required (name : String) (absent : Malformed) :
    Checked.Reports (Attribute.required params e name absent) := by
  unfold Attribute.required
  refine @Checked.reports_bind _ _ _ _ _ fun value => ?_
  split <;> infer_instance

/-- An attribute that is required and read has its substituted value. -/
theorem Attribute.value?_of_required {name : String} {absent : Malformed} {value : String}
    (h : Attribute.required params e name absent = .of value) :
    Attribute.value? params e name = .of (some value) := by
  have hsilent : (Attribute.required params e name absent).problems = [] := by
    rw [h]
    rfl
  unfold Attribute.required at h hsilent
  obtain ⟨found, hfound, hnext⟩ := Checked.silent_bind hsilent
  rw [hfound] at h
  cases found with
  | none => cases hnext
  | some v =>
    have hv : (Checked.of v : Checked String) = .of value := h
    cases hv
    exact hfound

namespace Node

instance reports_readHead : Checked.Reports (readHead params e) := by
  unfold readHead
  refine @Checked.reports_bind _ _ _ _ _ fun type => ?_
  refine @Checked.reports_bind _ _ _ _ _ fun id => ?_
  refine @Checked.reports_bind _ _ _ _ _ fun name => ?_
  split <;> infer_instance

/-- The head of a node holds the substituted attributes of its element. -/
theorem readHead_of {head : Head} (hhead : readHead params e = .of head) :
    Attribute.value? params e "type" = .of (some head.type) ∧
      Attribute.value? params e "id" = .of head.id ∧
      Attribute.value? params e "name" = .of head.name := by
  have h : (readHead params e).problems = [] := by
    rw [hhead]
    rfl
  unfold readHead at h hhead
  obtain ⟨type, htype, h⟩ := Checked.silent_bind h
  obtain ⟨id, hid, h⟩ := Checked.silent_bind h
  obtain ⟨name, hname, h⟩ := Checked.silent_bind h
  rw [htype, hid, hname] at hhead
  split at h
  · cases h
  · next hne =>
    have hresult : (Checked.of ⟨type, id, name⟩ : Checked Head) = .of head := by
      simpa [hne] using hhead
    cases hresult
    exact ⟨Attribute.value?_of_required htype, hid, hname⟩

/-- A node that is read in silence has its head, and its content is read in silence too. -/
theorem read_silent {kind : NodeKind} {index : Nat}
    (h : (read params kind index e).problems = []) :
    ∃ head, readHead params e = .of head ∧
      (readChildren params kind (index + 1) Body.empty e.children).problems = [] ∧
      (read params kind index e).value = some (assemble index kind head e.location
        (readChildren params kind (index + 1) Body.empty e.children).value) := by
  obtain ⟨tag, attributes, children, location⟩ := e
  rw [read] at h ⊢
  dsimp only at h ⊢
  split at h
  · next hnone =>
    obtain ⟨head, hhead⟩ := Checked.Reports.exists_of_silent h
    rw [hhead] at hnone
    cases hnone
  · next head hsome =>
    obtain ⟨hhead, hcontent⟩ := List.append_eq_nil_iff.mp h
    exact ⟨head, Checked.eq_of hsome hhead, hcontent, rfl⟩

end Node

end SceneGraph
