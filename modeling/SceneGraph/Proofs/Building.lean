import SceneGraph.Instantiation

/-!
# One step of building

What building does with one node, one child and one reference, as equations between states.
The rest of the theory about building uses these and `finish_cases`, and does not open
`build`.
-/

namespace SceneGraph

/-- What a node leaves in the entry that it owns. -/
def Outcome.status : Outcome → Status Object
  | .built o => .built o
  | .failed | .aborted => .failed

theorem Outcome.status_ne_pending (outcome : Outcome) : outcome.status ≠ .pending := by
  cases outcome <;> exact nofun

namespace Instantiation

/-- The state behind a reference. -/
def State.lookedUp (s : State) : Except Problem (Option Object) → State
  | .ok _ => s
  | .error p => s.add [.problem p]

/-- The object that a reference gives to its node. -/
def given? : Except Problem (Option Object) → Option Object
  | .ok target => target
  | .error _ => none

/-- The end of a node whose children are known. -/
def conclude (n : Node) (g : Gathered) (s : State) : Outcome × State :=
  if g.aborted then (.aborted, s) else finish n g.attached s

/-! ## Lemmas -/

theorem built_of_status {outcome : Outcome} {o : Object} (h : outcome.status = .built o) :
    outcome = .built o := by
  cases outcome with
  | built o' => rw [Status.built.inj h]
  | failed => cases h
  | aborted => cases h

theorem object?_of_status_failed {outcome : Outcome} (h : outcome.status = .failed) :
    outcome.object? = none := by
  cases outcome with
  | built o => cases h
  | failed => rfl
  | aborted => rfl

@[simp] theorem add_registry (s : State) (fs : List Finding) :
    (s.add fs).registry = s.registry := rfl

@[simp] theorem add_arena (s : State) (fs : List Finding) : (s.add fs).arena = s.arena := rfl

@[simp] theorem add_findings (s : State) (fs : List Finding) :
    (s.add fs).findings = s.findings ++ fs := rfl

@[simp] theorem publish_arena (s : State) (id : Option String) (i : Nat) (o : Outcome) :
    (s.publish id i o).arena = s.arena := by
  cases id <;> rfl

@[simp] theorem publish_findings (s : State) (id : Option String) (i : Nat) (o : Outcome) :
    (s.publish id i o).findings = s.findings := by
  cases id <;> rfl

theorem publish_registry_none (s : State) (i : Nat) (o : Outcome) :
    (s.publish none i o).registry = s.registry := rfl

theorem publish_registry_some (s : State) (id : String) (i : Nat) (o : Outcome) :
    (s.publish (some id) i o).registry = s.registry.finish id i o.status := by
  cases o <;> rfl

@[simp] theorem publish_duplicates (s : State) (id : Option String) (i : Nat) (o : Outcome) :
    (s.publish id i o).registry.duplicates = s.registry.duplicates := by
  cases id with
  | none => rfl
  | some id =>
    rw [publish_registry_some]
    rfl

@[simp] theorem lookedUp_registry (s : State) (t : Except Problem (Option Object)) :
    (s.lookedUp t).registry = s.registry := by
  cases t <;> rfl

@[simp] theorem lookedUp_arena (s : State) (t : Except Problem (Option Object)) :
    (s.lookedUp t).arena = s.arena := by
  cases t <;> rfl

theorem build_of_duplicate {s : State} {n : Node} (h : s.registry.isDuplicate n.index = true) :
    build s n = (.aborted, s) := by
  cases n
  rw [build]
  exact if_pos h

theorem build_of_first {s : State} {n : Node} (h : s.registry.isDuplicate n.index = false) :
    build s n =
      let (g, s) := buildChildren s n.children
      let (outcome, s) := conclude n g s
      (outcome, s.publish n.id n.index outcome) := by
  cases n
  rw [build]
  exact if_neg (by simpa using h)

theorem buildChildren_nested (s : State) (n : Node) (cs : List Child) :
    buildChildren s (.nested n :: cs) =
      ((buildChildren (build s n).2 cs).1.nested n (build s n).1,
        (buildChildren (build s n).2 cs).2) := by
  rw [buildChildren]

theorem buildChildren_reference (s : State) (r : Reference) (cs : List Child) :
    buildChildren s (.reference r :: cs) =
      let t := s.registry.resolve r.id r.location
      ((buildChildren (s.lookedUp t) cs).1.reference r (given? t),
        (buildChildren (s.lookedUp t) cs).2) := by
  rw [buildChildren]
  cases s.registry.resolve r.id r.location <;> rfl

theorem buildAll_cons (s : State) (n : Node) (ns : List Node) :
    buildAll s (n :: ns) =
      (((build s n).1.object?.map fun o => ⟨n.ref, o⟩).toList ++ (buildAll (build s n).2 ns).1,
        (buildAll (build s n).2 ns).2) := rfl

/-- The three ways in which the end of a node with known children can go. -/
theorem finish_cases (n : Node) (children : Attached) (s : State) :
    (Plugin.find? n.kind n.type = none ∧
      finish n children s =
        (.failed, s.add [.problem (.unknownType n.kind n.type n.location)])) ∨
    (∃ p findings, Plugin.find? n.kind n.type = some p ∧
      inspect p n children = (none, findings) ∧
      finish n children s = (.failed, s.add findings)) ∨
    (∃ p product findings, Plugin.find? n.kind n.type = some p ∧
      inspect p n children = (some product, findings) ∧
      finish n children s =
        (if children.failed.isEmpty then .built (s.arena.store n.id product).1 else .failed,
          { s.add findings with arena := (s.arena.store n.id product).2 })) := by
  rw [finish]
  cases hp : Plugin.find? n.kind n.type with
  | none => exact .inl ⟨rfl, rfl⟩
  | some p =>
    right
    simp only
    cases hi : inspect p n children with
    | mk product findings =>
      cases product with
      | none => exact .inl ⟨p, findings, rfl, hi, rfl⟩
      | some product => exact .inr ⟨p, product, findings, rfl, hi, rfl⟩

/-- A node that ends with an object has a plugin that makes it. -/
theorem conclude_built {n : Node} {g : Gathered} {s : State} {o : Object}
    (h : (conclude n g s).1 = .built o) :
    ∃ p product, Plugin.find? n.kind n.type = some p ∧
      (inspect p n g.attached).1 = some product ∧ (s.arena.store n.id product).1 = o := by
  unfold conclude at h
  split at h
  · cases h
  obtain ⟨-, hfinish⟩ | ⟨p, fs, -, -, hfinish⟩ | ⟨p, product, fs, hp, hinspect, hfinish⟩ :=
    finish_cases n g.attached s
  · rw [hfinish] at h
    cases h
  · rw [hfinish] at h
    cases h
  · rw [hfinish] at h
    dsimp only at h
    split at h
    · exact ⟨p, product, hp, congrArg Prod.fst hinspect, Outcome.built.inj h⟩
    · cases h

@[simp] theorem finish_registry (n : Node) (children : Attached) (s : State) :
    (finish n children s).2.registry = s.registry := by
  obtain ⟨-, h⟩ | ⟨p, fs, -, -, h⟩ | ⟨p, product, fs, -, -, h⟩ := finish_cases n children s
  all_goals rw [h]; rfl

@[simp] theorem conclude_registry (n : Node) (g : Gathered) (s : State) :
    (conclude n g s).2.registry = s.registry := by
  unfold conclude
  split
  · rfl
  · exact finish_registry n g.attached s

/-- The state after a first declaration. -/
theorem build_state_of_first {s : State} {n : Node}
    (h : s.registry.isDuplicate n.index = false) :
    (build s n).2 = (conclude n (buildChildren s n.children).1
      (buildChildren s n.children).2).2.publish n.id n.index (build s n).1 := by
  rw [build_of_first h]

theorem build_outcome_of_first {s : State} {n : Node}
    (h : s.registry.isDuplicate n.index = false) :
    (build s n).1 = (conclude n (buildChildren s n.children).1
      (buildChildren s n.children).2).1 := by
  rw [build_of_first h]

mutual

/-- Building declares nothing. -/
theorem build_duplicates (s : State) :
    ∀ n, (build s n).2.registry.duplicates = s.registry.duplicates
  | ⟨index, kind, type, id, name, location, properties, children, invalid⟩ => by
    by_cases h : s.registry.isDuplicate index = true
    · rw [build_of_duplicate h]
    · rw [build_state_of_first (Bool.eq_false_iff.mpr h), publish_duplicates, conclude_registry]
      exact buildChildren_duplicates s children

theorem buildChildren_duplicates (s : State) :
    ∀ cs, (buildChildren s cs).2.registry.duplicates = s.registry.duplicates
  | [] => rfl
  | .nested n :: cs => by
    rw [buildChildren_nested, buildChildren_duplicates _ cs, build_duplicates s n]
  | .reference r :: cs => by
    rw [buildChildren_reference]
    simp only [buildChildren_duplicates _ cs, lookedUp_registry]

end

end Instantiation

end SceneGraph
