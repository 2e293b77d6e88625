import Mathlib.Data.List.Dedup
import Mathlib.Data.List.Induction
import SceneGraph.Proofs.Declaration

/-!
# What a registry answers behind a run of calls

Calls declare ids, complete nodes and let them fail, in any order.  The first declaration of an
id names its owner, for good; of the calls behind it only those that end this owner count for the
id, and of these the last one.  `answer` reads the answer to a reference off the calls in this
way, and it is the answer of the registry (`firstDeclaration_wins`).

    the entry of an id     find?_made, from the effect of one call
    the declared ids       ids_made_nodup, mem_ids_made
    the refused numbers    isDuplicate_made
-/

namespace SceneGraph.Registry

variable {α : Type}

inductive Call (α : Type) where
  | declare (id : String) (kind : NodeKind) (index : Nat) (location : Location)
  | complete (id : String) (index : Nat) (value : α)
  | fail (id : String) (index : Nat)

/-- The registry behind a call, and the problem of a refused one. -/
def call (r : Registry α) : Call α → Registry α × Option Problem
  | .declare id kind index l => r.declare id kind index l
  | .complete id index value => (r.complete id index value, none)
  | .fail id index => (r.fail id index, none)

/-- The registry that a run of calls makes. -/
def made (calls : List (Call α)) : Registry α := calls.foldl (fun r c => (r.call c).1) empty

/-- The node that a declaration gives an id to. -/
structure Owner where
  kind : NodeKind
  index : Nat
  location : Location

namespace Call

def declared? : Call α → Option String
  | declare id _ _ _ => some id
  | complete _ _ _ => none
  | fail _ _ => none

/-- The owner that a call declares for an id. -/
def owner? (id : String) : Call α → Option Owner
  | declare i kind index l => if i = id then some ⟨kind, index, l⟩ else none
  | complete _ _ _ => none
  | fail _ _ => none

/-- How a call ends the node with a number that owns an id: with a value or with nothing. -/
def ending? (id : String) (index : Nat) : Call α → Option (Option α)
  | declare _ _ _ _ => none
  | complete i j value => if i = id ∧ j = index then some (some value) else none
  | fail i j => if i = id ∧ j = index then some none else none

end Call

/-- The owner in the first declaration of an id, and the calls behind this declaration. -/
def first? (id : String) : List (Call α) → Option (Owner × List (Call α))
  | [] => none
  | c :: cs =>
    match c.owner? id with
    | some o => some (o, cs)
    | none => first? id cs

/-- How calls end the owner of an id, the last one deciding. -/
def ending? (id : String) (index : Nat) (calls : List (Call α)) : Option (Option α) :=
  (calls.filterMap (Call.ending? id index)).getLast?

/-- The answer to a reference at `l` behind a run of calls. -/
def answer (calls : List (Call α)) (id : String) (l : Location) : Except Problem (Option α) :=
  match first? id calls with
  | none => .error (.unresolvedReference id l .undeclared)
  | some (o, later) =>
    match ending? id o.index later with
    | none => .error (.unresolvedReference id l (.unfinished o.kind o.location))
    | some ending => .ok ending

/-- The status that an ending leaves. -/
def status : Option (Option α) → Status α
  | none => .pending
  | some none => .failed
  | some (some value) => .built value

/-- The entry of an id behind a run of calls. -/
def entry? (calls : List (Call α)) (id : String) : Option (Entry α) :=
  (first? id calls).map fun (o, later) =>
    ⟨id, o.kind, o.index, o.location, status (ending? id o.index later)⟩

/-! ## Lemmas -/

theorem made_concat (calls : List (Call α)) (c : Call α) :
    made (calls ++ [c]) = ((made calls).call c).1 := by
  rw [made, List.foldl_append]
  rfl

theorem first?_concat (id : String) (calls : List (Call α)) (c : Call α) :
    first? id (calls ++ [c]) =
      match first? id calls with
      | some (o, later) => some (o, later ++ [c])
      | none => (c.owner? id).map (·, []) := by
  induction calls with
  | nil =>
    rw [List.nil_append, first?, first?]
    cases c.owner? id <;> rfl
  | cons d calls ih =>
    rw [List.cons_append, first?, first?]
    cases d.owner? id with
    | some o => rfl
    | none => exact ih

theorem first?_eq_none_iff {id : String} {calls : List (Call α)} :
    first? id calls = none ↔ id ∉ calls.filterMap Call.declared? := by
  induction calls with
  | nil => simp [first?]
  | cons c calls ih =>
    rw [first?]
    cases c with
    | declare i kind index l =>
      by_cases hi : i = id
      · simp [Call.owner?, Call.declared?, hi]
      · simpa [Call.owner?, Call.declared?, hi, Ne.symm hi] using ih
    | complete i j value => simpa [Call.owner?, Call.declared?] using ih
    | fail i j => simpa [Call.owner?, Call.declared?] using ih

theorem ending?_concat (id : String) (index : Nat) (calls : List (Call α)) (c : Call α) :
    ending? id index (calls ++ [c]) = (c.ending? id index).or (ending? id index calls) := by
  rw [ending?, List.filterMap_append, List.getLast?_append]
  cases h : c.ending? id index <;> simp [h, ending?]

/-- A later call changes of the entry at most how its owner has ended. -/
theorem entry?_concat (calls : List (Call α)) (c : Call α) (id : String) :
    entry? (calls ++ [c]) id =
      match entry? calls id with
      | some e =>
        some ((c.ending? id e.index).elim e fun ending => { e with status := status (some ending) })
      | none => (c.owner? id).map fun o => ⟨id, o.kind, o.index, o.location, .pending⟩ := by
  unfold entry?
  rw [first?_concat]
  cases first? id calls with
  | none => cases c.owner? id <;> rfl
  | some first =>
    obtain ⟨o, later⟩ := first
    simp only [Option.map_some, ending?_concat]
    cases c.ending? id o.index <;> rfl

/-! ## The effect of one call -/

theorem find?_declare (r : Registry α) (id : String) (kind : NodeKind) (index : Nat) (l : Location)
    (x : String) :
    (r.declare id kind index l).1.find? x =
      (r.find? x).or (if id = x then some ⟨id, kind, index, l, .pending⟩ else none) := by
  unfold declare
  cases hfind : r.find? id with
  | some first =>
    show r.find? x = _
    by_cases hx : id = x
    · rw [← hx, hfind, Option.some_or]
    · rw [if_neg hx, Option.or_none]
  | none =>
    show (r.entries ++ [_]).find? _ = _
    rw [List.find?_append]
    by_cases hx : id = x <;> simp [hx, find?]

/-- The entry that a node ends is the one that it owns. -/
theorem find?_end (r : Registry α) (id : String) (index : Nat) (st : Status α) (x : String) :
    (r.finish id index st).find? x = (r.find? x).map fun e =>
      if id = x ∧ index = e.index then { e with status := st } else e := by
  rw [find?_finish]
  cases hfind : r.find? x with
  | none => rfl
  | some e => simp only [Option.map_some, id_of_find? hfind, eq_comm]

/-- Behind a run of calls an id has the entry that the calls give it. -/
theorem find?_made (calls : List (Call α)) (id : String) :
    (made calls).find? id = entry? calls id := by
  induction calls using List.reverseRecOn with
  | nil => rfl
  | append_singleton calls c ih =>
    rw [made_concat, entry?_concat, ← ih]
    cases c with
    | declare i kind index l =>
      rw [call, find?_declare]
      cases (made calls).find? id with
      | some e => rfl
      | none =>
        by_cases hi : i = id
        · simp [Call.owner?, hi]
        · simp [Call.owner?, hi]
    | complete i j value =>
      rw [call, complete, find?_end]
      cases (made calls).find? id with
      | none => rfl
      | some e =>
        by_cases hown : i = id ∧ j = e.index
        · simp [Call.ending?, hown, status]
        · simp [Call.ending?, hown]
    | fail i j =>
      rw [call, fail, find?_end]
      cases (made calls).find? id with
      | none => rfl
      | some e =>
        by_cases hown : i = id ∧ j = e.index
        · simp [Call.ending?, hown, status]
        · simp [Call.ending?, hown]

/-- An ended node that owns no entry changes nothing. -/
theorem finish_of_stranger {r : Registry α} {id : String} {index : Nat}
    (h : ∀ e ∈ r.entries, ¬ (e.id = id ∧ e.index = index)) (st : Status α) :
    r.finish id index st = r := by
  have hsame : r.entries.map (fun e =>
      if e.id = id ∧ e.index = index then { e with status := st } else e) = r.entries :=
    (List.map_congr_left fun e he => if_neg (h e he)).trans (List.map_id _)
  rw [finish, hsame]

/-! ## What was declared -/

theorem mem_ids_made {calls : List (Call α)} {id : String} :
    id ∈ (made calls).ids ↔ id ∈ calls.filterMap Call.declared? := by
  rw [← not_iff_not, ← find?_eq_none_iff, find?_made, entry?, Option.map_eq_none_iff,
    first?_eq_none_iff]

theorem ids_finish (r : Registry α) (id : String) (index : Nat) (st : Status α) :
    (r.finish id index st).ids = r.ids := by
  rw [ids, finish, List.map_map]
  refine List.map_congr_left fun e _ => ?_
  show (if _ then _ else e).id = e.id
  split <;> rfl

/-- No id has two entries. -/
theorem ids_made_nodup (calls : List (Call α)) : (made calls).ids.Nodup := by
  induction calls using List.reverseRecOn with
  | nil => exact List.nodup_nil
  | append_singleton calls c ih =>
    rw [made_concat]
    cases c with
    | declare id kind index l =>
      rw [call, declare]
      cases hfind : (made calls).find? id with
      | some first => exact ih
      | none =>
        have hnew : id ∉ (made calls).ids := find?_eq_none_iff.mp hfind
        have hids := ih.concat hnew
        rw [List.concat_eq_append] at hids
        show (List.map _ (_ ++ [_])).Nodup
        rwa [List.map_append]
    | complete id index value =>
      rw [call, complete, ids_finish]
      exact ih
    | fail id index =>
      rw [call, fail, ids_finish]
      exact ih

theorem find?_of_mem_made {calls : List (Call α)} {e : Entry α} (he : e ∈ (made calls).entries) :
    (made calls).find? e.id = some e := by
  cases hfind : (made calls).find? e.id with
  | none => exact absurd (List.mem_map_of_mem he) (find?_eq_none_iff.mp hfind)
  | some first =>
    rw [List.inj_on_of_nodup_map (ids_made_nodup calls) (List.mem_of_find?_eq_some hfind) he
      (id_of_find? hfind)]

theorem size_made (calls : List (Call α)) :
    (made calls).size = (calls.filterMap Call.declared?).dedup.length := by
  have hsize : (made calls).size = (made calls).ids.length := (List.length_map _).symm
  rw [hsize]
  refine List.Perm.length_eq ?_
  rw [List.perm_ext_iff_of_nodup (ids_made_nodup calls) (List.nodup_dedup _)]
  intro id
  rw [mem_ids_made, List.mem_dedup]

/-- A declaration behind a run of calls is refused if the id has been declared, and only then. -/
theorem declare_made (calls : List (Call α)) (id : String) (kind : NodeKind) (index : Nat)
    (l : Location) :
    (made calls).declare id kind index l =
      match first? id calls with
      | some (o, _) =>
        ({ made calls with duplicates := (made calls).duplicates ++ [index] },
          some (.duplicateId id o.location l))
      | none =>
        ({ made calls with entries := (made calls).entries ++ [⟨id, kind, index, l, .pending⟩] },
          none) := by
  rw [declare, find?_made, entry?]
  cases first? id calls <;> rfl

theorem mem_duplicates_call {r : Registry α} {c : Call α} {j : Nat} :
    j ∈ (r.call c).1.duplicates ↔
      j ∈ r.duplicates ∨ ∃ id kind l, c = .declare id kind j l ∧ (r.call c).2 ≠ none := by
  cases c with
  | declare id kind index l =>
    rw [call, declare]
    cases r.find? id <;> simp [eq_comm]
  | complete id index value => simp [call, complete, finish]
  | fail id index => simp [call, fail, finish]

/-- The numbers of duplicates are those that refused declarations were given. -/
theorem isDuplicate_made {calls : List (Call α)} {j : Nat} :
    (made calls).isDuplicate j = true ↔ ∃ before id kind l after,
      calls = before ++ .declare id kind j l :: after ∧
        ((made before).declare id kind j l).2 ≠ none := by
  rw [isDuplicate, List.contains_iff_mem]
  induction calls using List.reverseRecOn with
  | nil => simp [made, empty]
  | append_singleton calls c ih =>
    rw [made_concat, mem_duplicates_call, ih]
    constructor
    · rintro (⟨before, id, kind, l, after, rfl, hrefused⟩ | ⟨id, kind, l, rfl, hrefused⟩)
      · exact ⟨before, id, kind, l, after ++ [c], by simp, hrefused⟩
      · exact ⟨calls, id, kind, l, [], rfl, hrefused⟩
    · rintro ⟨before, id, kind, l, after, hsplit, hrefused⟩
      obtain ⟨rfl, rfl, -⟩ | ⟨rest, rfl, -⟩ := split_of_concat hsplit
      · exact .inr ⟨id, kind, l, rfl, hrefused⟩
      · exact .inl ⟨before, id, kind, l, rest, rfl, hrefused⟩

/-! ## Top theorem -/

theorem resolve_made (calls : List (Call α)) (id : String) (l : Location) :
    (made calls).resolve id l = answer calls id l := by
  rw [resolve, find?_made, entry?, answer]
  cases first? id calls with
  | none => rfl
  | some first =>
    obtain ⟨o, later⟩ := first
    dsimp only [Option.map_some]
    cases ending? id o.index later with
    | none => rfl
    | some ending => cases ending <;> rfl

/-- An end that is not the owner's changes nothing. -/
theorem finish_made {calls : List (Call α)} {id : String} {index : Nat}
    (h : (first? id calls).map (·.1.index) ≠ some index) (st : Status α) :
    (made calls).finish id index st = made calls := by
  refine finish_of_stranger (fun e he hown => h ?_) st
  obtain ⟨rfl, rfl⟩ := hown
  have hentry : entry? calls e.id = some e := by rw [← find?_made, find?_of_mem_made he]
  obtain ⟨⟨o, later⟩, hfirst, hmake⟩ := Option.map_eq_some_iff.mp hentry
  rw [hfirst, ← hmake]
  rfl

/-- **The first declaration wins.**  Whatever calls are made on a registry, a reference to an id is
answered by the calls alone: by the owner that the first declaration names, and by the last call
behind it that ends this owner.  A later declaration of the id is refused, with the place of the
first one and its own, and changes no entry; what ends a node that is not the owner changes
nothing.  The duplicates are the numbers that refused declarations were given, and the size is the
number of different ids declared. -/
theorem firstDeclaration_wins (calls : List (Call α)) :
    (∀ id l, (made calls).resolve id l = answer calls id l) ∧
    (∀ id o later, first? id calls = some (o, later) → ∀ kind index l,
      (made calls).declare id kind index l =
        ({ made calls with duplicates := (made calls).duplicates ++ [index] },
          some (.duplicateId id o.location l))) ∧
    (∀ id, first? id calls = none → ∀ kind index l,
      ((made calls).declare id kind index l).2 = none) ∧
    (∀ id index, (first? id calls).map (·.1.index) ≠ some index →
      (∀ value, (made calls).complete id index value = made calls) ∧
        (made calls).fail id index = made calls) ∧
    (∀ j, (made calls).isDuplicate j = true ↔ ∃ before id kind l after,
      calls = before ++ .declare id kind j l :: after ∧
        ((made before).declare id kind j l).2 ≠ none) ∧
    (made calls).size = (calls.filterMap Call.declared?).dedup.length := by
  refine ⟨resolve_made calls, fun id o later hfirst kind index l => ?_,
    fun id hfirst kind index l => ?_, fun id index hother => ⟨fun value => ?_, ?_⟩,
    fun j => isDuplicate_made, size_made calls⟩
  · rw [declare_made, hfirst]
  · rw [declare_made, hfirst]
  · exact finish_made hother _
  · exact finish_made hother _

/-- The second declaration is refused, and its end leaves the entry to the first one. -/
example : answer (α := Nat) [.declare "a" .bsdf 0 ⟨1, 1⟩, .declare "a" .film 1 ⟨2, 1⟩,
      .complete "a" 1 99, .fail "a" 0, .complete "a" 0 7] "a" ⟨3, 1⟩ = .ok (some 7) := by
  rfl

end SceneGraph.Registry
