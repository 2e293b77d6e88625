import SceneGraph.Proofs.OneParameter

/-!
# What a table keeps of the calls on it

A table is made by calls that define defaults and override values, in any order and with any
outcome.  The accepted calls alone decide what it holds, and `Records` says how: an entry for
each accepted definition, in their order, with the default and the position that it states; as
its value the default, until the one override of its name is accepted; and an index that is in
step with the entries, so that looking up a name finds its entry.

    one accepted call keeps the records      (Records.after)
    so does a run of calls                   (records_made)
    later calls only add to the entries,
    and override what is not overridden      (made_append)
-/

namespace SceneGraph.Parameter

/-- What later calls can make of an entry: at most a value, and only the first one. -/
structure Becomes (p q : Parameter) : Prop where
  name : q.name = p.name
  default : q.default = p.default
  location : q.location = p.location
  settled : p.overridden = true → q = p

theorem Becomes.refl (p : Parameter) : Becomes p p := ⟨rfl, rfl, rfl, fun _ => rfl⟩

theorem Becomes.trans {p q r : Parameter} (h : Becomes p q) (h' : Becomes q r) : Becomes p r where
  name := h'.name.trans h.name
  default := h'.default.trans h.default
  location := h'.location.trans h.location
  settled := by
    intro hp
    obtain rfl := h.settled hp
    exact h'.settled hp

namespace Table

/-- The table that a run of calls makes. -/
def made (calls : List Call) : Table := (empty.applyAll call calls).1

/-- The calls that are accepted when they are made on a table one after the other. -/
def accepted (t : Table) : List Call → List Call
  | [] => []
  | c :: cs =>
    match t.call c with
    | .accepted t' => c :: accepted t' cs
    | .refused _ t' => accepted t' cs

/-- The name that a call defines. -/
def Call.defined? : Call → Option String
  | define name _ _ => some name
  | override _ _ => none

/-- The value that a call gives to a name by an override. -/
def Call.overriding? (name : String) : Call → Option String
  | define _ _ _ => none
  | override n value => if n = name then some value else none

/-- The values that overrides give to a name, in order. -/
def overrides (name : String) (calls : List Call) : List String :=
  calls.filterMap (Call.overriding? name)

/-- What a table holds when `done` are the calls on it that were accepted. -/
structure Records (done : List Call) (t : Table) : Prop where
  inStep : t.InStep
  names : t.names = done.filterMap Call.defined?
  nodup : t.names.Nodup
  valid : ∀ n ∈ t.names, isName n.toList = true
  stated : ∀ p ∈ t.parameters, .define p.name p.default p.location ∈ done
  value : ∀ p ∈ t.parameters,
    overrides p.name done = [] ∧ p.value = p.default ∧ p.overridden = false ∨
      overrides p.name done = [p.value] ∧ p.overridden = true
  known : ∀ n ∉ t.names, overrides n done = []
  tokenFree : ∀ p ∈ t.parameters, ¬ HasToken p.default.toList ∧ ¬ HasToken p.value.toList

/-- Every entry keeps its place in the later table. -/
def Extends (t u : Table) : Prop :=
  ∀ (i : Nat) (p : Parameter), t.parameters[i]? = some p →
    ∃ q, u.parameters[i]? = some q ∧ Becomes p q

/-! ## Lemmas -/

theorem Extends.refl (t : Table) : Extends t t := fun _ p hp => ⟨p, hp, Becomes.refl p⟩

theorem Extends.trans {t u v : Table} (h : Extends t u) (h' : Extends u v) : Extends t v := by
  intro i p hp
  obtain ⟨q, hq, hpq⟩ := h i p hp
  obtain ⟨r, hr, hqr⟩ := h' i q hq
  exact ⟨r, hr, hpq.trans hqr⟩

theorem overrides_append (name : String) (calls more : List Call) :
    overrides name (calls ++ more) = overrides name calls ++ overrides name more :=
  List.filterMap_append

/-! ## One call -/

theorem records_empty : Records [] empty where
  inStep := inStep_empty
  names := rfl
  nodup := List.nodup_nil
  valid := List.forall_mem_nil _
  stated := List.forall_mem_nil _
  value := List.forall_mem_nil _
  known := fun _ _ => rfl
  tokenFree := List.forall_mem_nil _

variable {done : List Call} {t t' : Table}

theorem Records.define (h : Records done t) {name value : String} {l : Location}
    (hdefine : t.define name value l = .accepted t') :
    Records (done ++ [.define name value l]) t' := by
  have hstep := h.inStep.define hdefine
  obtain ⟨hvalid, hfind, htoken, rfl⟩ := define_accepted hdefine
  have hnew : name ∉ t.names := h.inStep.find?_eq_none_iff.mp hfind
  have hnames : (t.push ⟨name, value, value, false, l⟩).names = t.names ++ [name] :=
    names_push t _
  have hsame : ∀ n, overrides n (done ++ [.define name value l]) = overrides n done := by
    intro n
    rw [overrides_append]
    exact List.append_nil _
  have htoken' := tokenProblem?_eq_none_iff.mp htoken
  constructor
  case inStep => exact hstep
  case names =>
    rw [hnames, h.names, List.filterMap_append]
    rfl
  case nodup => exact hstep.nodup
  case valid =>
    rw [hnames]
    exact List.forall_mem_append.mpr ⟨h.valid, List.forall_mem_singleton.mpr hvalid⟩
  case stated =>
    refine List.forall_mem_append.mpr ⟨fun p hp => ?_, List.forall_mem_singleton.mpr ?_⟩
    · exact List.mem_append_left _ (h.stated p hp)
    · exact List.mem_append_right _ (List.mem_singleton_self _)
  case value =>
    simp only [hsame]
    exact List.forall_mem_append.mpr
      ⟨h.value, List.forall_mem_singleton.mpr (.inl ⟨h.known _ hnew, rfl, rfl⟩)⟩
  case known =>
    intro n hn
    rw [hnames] at hn
    rw [hsame]
    exact h.known n fun hmem => hn (List.mem_append_left _ hmem)
  case tokenFree =>
    exact List.forall_mem_append.mpr
      ⟨h.tokenFree, List.forall_mem_singleton.mpr ⟨htoken', htoken'⟩⟩

/-- The entry that a name leads to is the only one with the name. -/
theorem Records.eq_of_find? (h : Records done t) {name : String} {p q : Parameter}
    (hfind : t.find? name = some p) (hq : q ∈ t.parameters) (hname : q.name = name) : q = p :=
  Option.some.inj ((h.inStep.find?_eq_some_iff.mpr ⟨hq, hname⟩).symm.trans hfind)

theorem Records.override (h : Records done t) {name value : String}
    (hoverride : t.override name value = .accepted t') :
    Records (done ++ [.override name value]) t' := by
  have hstep := h.inStep.override hoverride
  obtain ⟨first, hfind, hfirst, htoken, rfl⟩ := h.inStep.override_accepted hoverride
  have hnames : (t.retouch (assign name value)).names = t.names :=
    names_retouch (assign_name name value) t
  have hknown : name ∈ t.names :=
    h.inStep.find?_isSome_iff.mp (Option.isSome_iff_exists.mpr ⟨first, hfind⟩)
  have hother : ∀ n, n ≠ name → overrides n (done ++ [.override name value]) = overrides n done := by
    intro n hn
    have hnone : overrides n [.override name value] = [] :=
      List.filterMap_cons_none (if_neg fun heq => hn heq.symm)
    rw [overrides_append, hnone, List.append_nil]
  constructor
  case inStep => exact hstep
  case names =>
    rw [hnames, h.names, List.filterMap_append]
    exact (List.append_nil _).symm
  case nodup => exact hstep.nodup
  case valid =>
    rw [hnames]
    exact h.valid
  case stated =>
    refine List.forall_mem_map.mpr fun q hq => ?_
    have hstated := List.mem_append_left [Call.override name value] (h.stated q hq)
    unfold assign
    split <;> exact hstated
  case value =>
    refine List.forall_mem_map.mpr fun q hq => ?_
    rw [assign_name]
    by_cases hname : q.name = name
    · -- the entry that was found, and nothing has overridden it before
      obtain rfl := h.eq_of_find? hfind hq hname
      have hnone : overrides q.name done = [] := by
        rcases h.value q hq with ⟨hnone, -, -⟩ | ⟨-, htaken⟩
        · exact hnone
        · rw [hfirst] at htaken
          cases htaken
      rw [overrides_append, hnone, assign, if_pos hname]
      exact .inr ⟨by simp [overrides, Call.overriding?, hname, overrideWith], rfl⟩
    · rw [hother _ hname, assign, if_neg hname]
      exact h.value q hq
  case known =>
    intro n hn
    rw [hnames] at hn
    rw [hother n fun heq => hn (heq ▸ hknown)]
    exact h.known n hn
  case tokenFree =>
    refine List.forall_mem_map.mpr fun q hq => ?_
    unfold assign
    split
    · exact ⟨(h.tokenFree q hq).1, tokenProblem?_eq_none_iff.mp htoken⟩
    · exact h.tokenFree q hq

/-- What an accepted call leaves. -/
theorem Records.after (h : Records done t) {c : Call} (hcall : t.call c = .accepted t') :
    Records (done ++ [c]) t' := by
  cases c with
  | define name value l => exact h.define hcall
  | override name value => exact h.override hcall

/-- An accepted call keeps the entries in their places. -/
theorem Records.extends (h : Records done t) {c : Call} (hcall : t.call c = .accepted t') :
    Extends t t' := by
  intro i p hp
  cases c with
  | define name value l =>
    obtain ⟨-, -, -, rfl⟩ := define_accepted hcall
    have hi := (List.getElem?_eq_some_iff.mp hp).1
    exact ⟨p, (List.getElem?_append_left hi).trans hp, Becomes.refl p⟩
  | override name value =>
    obtain ⟨first, hfind, hfirst, -, rfl⟩ := h.inStep.override_accepted hcall
    refine ⟨assign name value p, by rw [retouch, List.getElem?_map, hp, Option.map_some], ?_⟩
    by_cases hname : p.name = name
    · obtain rfl := h.eq_of_find? hfind (List.mem_of_getElem? hp) hname
      rw [assign, if_pos hname]
      refine ⟨rfl, rfl, rfl, fun htaken => ?_⟩
      rw [hfirst] at htaken
      cases htaken
    · rw [assign, if_neg hname]
      exact Becomes.refl p

/-! ## Runs of calls -/

theorem accepted_cons (t : Table) (c : Call) (cs : List Call) :
    (∃ t', t.call c = .accepted t' ∧ t.accepted (c :: cs) = c :: t'.accepted cs ∧
      (t.applyAll call (c :: cs)).1 = (t'.applyAll call cs).1) ∨
    (t.accepted (c :: cs) = t.accepted cs ∧
      (t.applyAll call (c :: cs)).1 = (t.applyAll call cs).1) := by
  rw [accepted, applyAll]
  cases hcall : t.call c with
  | accepted t' => exact .inl ⟨t', rfl, rfl, rfl⟩
  | refused p t' =>
    obtain rfl := atomic_call t c p t' hcall
    exact .inr ⟨rfl, rfl⟩

/-- A run of calls keeps the records, and the entries in their places. -/
theorem Records.run (calls : List Call) : ∀ {done : List Call} {t : Table}, Records done t →
    Records (done ++ t.accepted calls) (t.applyAll call calls).1 ∧
      Extends t (t.applyAll call calls).1 := by
  induction calls with
  | nil =>
    intro done t h
    rw [accepted, List.append_nil]
    exact ⟨h, Extends.refl t⟩
  | cons c cs ih =>
    intro done t h
    rcases accepted_cons t c cs with ⟨t', hcall, haccepted, hrun⟩ | ⟨haccepted, hrun⟩
    · obtain ⟨hrecords, hextends⟩ := ih (h.after hcall)
      rw [haccepted, hrun, List.append_cons]
      exact ⟨hrecords, (h.extends hcall).trans hextends⟩
    · rw [haccepted, hrun]
      exact ih h

theorem records_made (calls : List Call) : Records (accepted empty calls) (made calls) :=
  (records_empty.run calls).1

theorem made_append (calls more : List Call) :
    made (calls ++ more) = ((made calls).applyAll call more).1 := by
  rw [made, applyAll_append]
  rfl

theorem made_extends (calls more : List Call) : Extends (made calls) (made (calls ++ more)) := by
  rw [made_append]
  exact ((records_made calls).run more).2

/-- A refused call leaves the table as it was. -/
theorem made_of_refused {calls : List Call} {c : Call} {p : Problem}
    (h : (made calls).call c = .refused p t') :
    t' = made calls ∧ made (calls ++ [c]) = made calls := by
  have ht' := atomic_call _ c p t' h
  refine ⟨ht', ?_⟩
  rw [made_append, applyAll, h]
  exact ht'

/-- Looking up a name finds the entry with the name. -/
theorem Records.get?_eq_some_iff (h : Records done t) {name value : String} :
    t.get? name = some value ↔ ∃ p ∈ t.parameters, p.name = name ∧ p.value = value := by
  simp only [get?, Option.map_eq_some_iff, h.inStep.find?_eq_some_iff, and_assoc]

theorem Records.get?_eq_none_iff (h : Records done t) {name : String} :
    t.get? name = none ↔ name ∉ t.names := by
  rw [get?, Option.map_eq_none_iff, h.inStep.find?_eq_none_iff]

/-- One override of a name is accepted, and no other. -/
theorem Records.override_again (h : Records done t) {name : String}
    (hdone : overrides name done ≠ []) (value : String) :
    t.override name value = .refused (.duplicateOverride name) t := by
  have hname : name ∈ t.names := by
    by_contra hname
    exact hdone (h.known name hname)
  obtain ⟨p, hp, rfl⟩ := List.mem_map.mp hname
  refine override_overridden (h.inStep.find?_eq_some_iff.mpr ⟨hp, rfl⟩) ?_ value
  rcases h.value p hp with ⟨hnone, -, -⟩ | ⟨-, htaken⟩
  · exact absurd hnone hdone
  · exact htaken

/-! ## Top theorem -/

/-- **A table records the calls on it.**  Whatever calls are made, its entries are those that the
accepted definitions state, in their order and under distinct valid names, each with its default
or with the value of the one override of its name; no default or value holds a token, and the
index is in step with the entries.  Looking up a name gives the value of its entry.  Later calls
keep every entry in its place with its default and position, and with its value once it is
overridden.  A refused call changes nothing, and an override is refused when its name is not
defined or has been overridden. -/
theorem calls_recorded (calls : List Call) :
    Records (accepted empty calls) (made calls) ∧
    (∀ name value, (made calls).get? name = some value ↔
      ∃ p ∈ (made calls).parameters, p.name = name ∧ p.value = value) ∧
    (∀ name, (made calls).get? name = none ↔ name ∉ (made calls).names) ∧
    (∀ more, Extends (made calls) (made (calls ++ more))) ∧
    (∀ c p t', (made calls).call c = .refused p t' →
      t' = made calls ∧ made (calls ++ [c]) = made calls) ∧
    ∀ name value,
      (name ∉ (made calls).names →
        (made calls).override name value = .refused (.unknownParameter name) (made calls)) ∧
      (overrides name (accepted empty calls) ≠ [] →
        (made calls).override name value = .refused (.duplicateOverride name) (made calls)) := by
  have h := records_made calls
  refine ⟨h, fun name value => h.get?_eq_some_iff, fun name => h.get?_eq_none_iff,
    made_extends calls, fun c p t' hrefused => made_of_refused hrefused, fun name value => ⟨?_, ?_⟩⟩
  · exact fun hname => override_unknown (h.inStep.find?_eq_none_iff.mpr hname) value
  · exact fun hdone => h.override_again hdone value

/-- A default and its override are accepted; a repetition of either, a name that is none and a
value with a token are refused. -/
example : accepted empty [.define "p" "x" ⟨1, 1⟩, .define "p" "y" ⟨2, 1⟩, .define "q" "$p" ⟨3, 1⟩,
      .override "p" "z", .override "p" "w", .override "q" "z"] =
    [.define "p" "x" ⟨1, 1⟩, .override "p" "z"] := by
  cbv

end Table

end SceneGraph.Parameter
