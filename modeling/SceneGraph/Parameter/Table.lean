import Std.Data.TreeMap
import SceneGraph.Parameter.Token
import SceneGraph.Problem

/-!
# Parameters

A table lists the defaults of a description in the order in which they are defined, and finds
them by an index of their names. A default is defined once and overridden at most once, and no
value holds a token, so that what substitution writes is final as far as whole values go. Every
call answers with the table that it leaves, which is the table as it was where the call is
refused.
-/

namespace SceneGraph

/-- A default and its current value. -/
structure Parameter where
  name : String
  default : String
  value : String
  overridden : Bool
  location : Location
deriving DecidableEq, Repr, Inhabited

namespace Parameter

/-- The parameter with the value that an override gives to it. -/
def overrideWith (p : Parameter) (value : String) : Parameter :=
  { p with value := value, overridden := true }

structure Table where
  parameters : List Parameter
  /-- The place of each name among the parameters. -/
  index : Std.TreeMap String Nat
deriving Repr

namespace Table

/-- What a call leaves: the table, and the problem for which the call is refused. -/
inductive Reply where
  | accepted (table : Table)
  | refused (problem : Problem) (table : Table)

namespace Reply

def table : Reply → Table
  | accepted t => t
  | refused _ t => t

def problem? : Reply → Option Problem
  | accepted _ => none
  | refused p _ => some p

/-- The reply for a caller that keeps its own table where the call is refused. -/
def toExcept : Reply → Except Problem Table
  | accepted t => .ok t
  | refused p _ => .error p

instance : Coe Reply (Except Problem Table) := ⟨toExcept⟩

end Reply

def empty : Table := ⟨[], ∅⟩

/-- The parameter at the place that the index has for a name. -/
def find? (t : Table) (name : String) : Option Parameter :=
  t.index[name]?.map (t.parameters[·]!)

/-- The current value of a parameter. -/
def get? (t : Table) (name : String) : Option String := (t.find? name).map (·.value)

/-- The problem of a value that holds a token. -/
def tokenProblem? (name value : String) : Option Problem :=
  (firstToken? value.toList).map fun token => .nestedParameter name (String.ofList token)

/-- The table with a new parameter behind the others. -/
def push (t : Table) (p : Parameter) : Table where
  parameters := t.parameters ++ [p]
  index := t.index.insert p.name t.parameters.length

/-- Defines a default. -/
def define (t : Table) (name value : String) (l : Location) : Reply :=
  if !isName name.toList then .refused (.malformed l (.defaultName name)) t
  else
    match t.find? name with
    | some first => .refused (.duplicateDefault name first.location l) t
    | none =>
      match tokenProblem? name value with
      | some p => .refused p t
      | none => .accepted (t.push ⟨name, value, value, false, l⟩)

/-- Replaces the value of a default, once. -/
def override (t : Table) (name value : String) : Reply :=
  match t.index[name]? with
  | none => .refused (.unknownParameter name) t
  | some i =>
    if t.parameters[i]!.overridden then .refused (.duplicateOverride name) t
    else
      match tokenProblem? name value with
      | some p => .refused p t
      | none => .accepted { t with parameters := t.parameters.modify i (·.overrideWith value) }

/-- The loop of a substitution: `out` is what is written so far, `rest` what is left to read. An
error is the name of a token that has no value. -/
def substituteFrom (t : Table) (out rest : List Char) : Except (List Char) (List Char) :=
  match _h : rest.idxOf? '$' with
  | none => .ok (out ++ rest)
  | some dollar =>
    let before := rest.take dollar
    let after := rest.drop (dollar + 1)
    let length := (after.findIdx? (!isNameChar ·)).getD after.length
    if length = 0 then substituteFrom t (out ++ before ++ ['$']) after
    else
      match t.get? (String.ofList (after.take length)) with
      | some value => substituteFrom t (out ++ before ++ value.toList) (after.drop length)
      | none => .error (after.take length)
termination_by rest.length
decreasing_by
  all_goals have hafter := length_drop_of_idxOf? _h
  · exact hafter
  · exact Nat.lt_of_le_of_lt (List.drop_sublist _ _).length_le hafter

/-- A text with every token replaced by its parameter's value. What is put in is not searched
for tokens again. -/
def substitute (t : Table) (cs : List Char) : Except (List Char) (List Char) :=
  if cs.contains '$' then t.substituteFrom [] cs else .ok cs

/-- Substitution in a text that belongs to the element at `l`. -/
def resolve (t : Table) (raw : String) (l : Location) : Except Problem String :=
  match t.substitute raw.toList with
  | .ok cs => .ok (String.ofList cs)
  | .error name => .error (.undefinedParameter (String.ofList name) l)

/-- What an accepted definition has passed, and what it makes. -/
theorem define_accepted {t t' : Table} {name value : String} {l : Location}
    (h : t.define name value l = .accepted t') :
    isName name.toList = true ∧ t.find? name = none ∧ tokenProblem? name value = none ∧
      t' = t.push ⟨name, value, value, false, l⟩ := by
  unfold define at h
  split at h
  · cases h
  · next hname =>
    split at h
    · cases h
    · next hnew =>
      split at h
      · cases h
      · next hvalue => exact ⟨by simpa using hname, hnew, hvalue, (Reply.accepted.inj h).symm⟩

/-- What an accepted override has passed, and what it makes. -/
theorem override_accepted {t t' : Table} {name value : String}
    (h : t.override name value = .accepted t') :
    ∃ i, t.index[name]? = some i ∧ t.parameters[i]!.overridden = false ∧
      tokenProblem? name value = none ∧
      t' = { t with parameters := t.parameters.modify i (·.overrideWith value) } := by
  unfold override at h
  split at h
  · cases h
  · next i hi =>
    split at h
    · cases h
    · next hfirst =>
      split at h
      · cases h
      · next hvalue =>
        exact ⟨i, hi, Bool.eq_false_iff.mpr hfirst, hvalue, (Reply.accepted.inj h).symm⟩

theorem override_of_index {t : Table} {name value : String} {i : Nat}
    (hi : t.index[name]? = some i) (hfirst : t.parameters[i]!.overridden = false)
    (hvalue : tokenProblem? name value = none) :
    t.override name value =
      .accepted { t with parameters := t.parameters.modify i (·.overrideWith value) } := by
  simp only [override, hi, hfirst, hvalue, Bool.false_eq_true, if_false]

/-- A refused definition leaves the table as it was. -/
theorem define_refused {t t' : Table} {name value : String} {l : Location} {p : Problem}
    (h : t.define name value l = .refused p t') : t' = t := by
  unfold define at h
  split at h
  · exact (Reply.refused.inj h).2.symm
  · split at h
    · exact (Reply.refused.inj h).2.symm
    · split at h
      · exact (Reply.refused.inj h).2.symm
      · cases h

/-- A refused override leaves the table as it was. -/
theorem override_refused {t t' : Table} {name value : String} {p : Problem}
    (h : t.override name value = .refused p t') : t' = t := by
  unfold override at h
  split at h
  · exact (Reply.refused.inj h).2.symm
  · split at h
    · exact (Reply.refused.inj h).2.symm
    · split at h
      · exact (Reply.refused.inj h).2.symm
      · cases h

end Table

end Parameter

end SceneGraph
