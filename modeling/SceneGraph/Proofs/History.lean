import SceneGraph.Proofs.Building
import SceneGraph.Proofs.Declaration
import SceneGraph.Proofs.Inspection

/-!
# The history of a run

`runHistory` lists what happens while a forest is built, in order: the nodes that are started,
the references that are looked up, each with the answer it gets, and the nodes that end, each
with what its children came to and with its outcome.  Every answer and outcome in it is the
one that `build` computes in the state that it has reached there.

    marks of the history = the walk through the forest               (runHistory_marks)
    unresolved references found = those in the history, in order     (run_unresolved)
    a reference = an attachment of its node, or the end of it        (runHistory_referred)
-/

namespace SceneGraph

namespace Problem

/-- A reference to nothing that is finished. -/
def isUnresolved : Problem → Bool
  | unresolvedReference _ _ _ => true
  | _ => false

end Problem

/-- The unresolved reference that a finding is. -/
def Finding.unresolved? : Finding → Option Problem
  | problem p => if p.isUnresolved then some p else none
  | unused _ => none

namespace Instantiation

inductive Event where
  | opened (n : Node)
  /-- A reference among the children of a node, with what it was answered. -/
  | referred (parent : Node) (r : Reference) (target : Except Problem (Option Object))
  /-- The end of a node, with what its children came to. -/
  | closed (n : Node) (children : Gathered) (outcome : Outcome)

namespace Event

def mark : Event → Mark
  | opened n => .opens n
  | referred parent r _ => .refers parent r
  | closed n _ _ => .closes n

/-- The problem that an event reports about a reference. -/
def problem? : Event → Option Problem
  | referred _ _ (.error p) => some p
  | _ => none

end Event

mutual

/-- What happens while a node is built from a state. -/
def history (s : State) : Node → List Event
  | ⟨index, kind, type, id, name, location, properties, children, invalid⟩ =>
    let n : Node := ⟨index, kind, type, id, name, location, properties, children, invalid⟩
    if s.registry.isDuplicate index then []
    else
      .opened n :: (historyChildren s n children ++
        [.closed n (buildChildren s children).1 (build s n).1])

def historyChildren (s : State) (parent : Node) : List Child → List Event
  | [] => []
  | .nested n :: cs => history s n ++ historyChildren (build s n).2 parent cs
  | .reference r :: cs =>
    let target := s.registry.resolve r.id r.location
    .referred parent r target :: historyChildren (s.lookedUp target) parent cs

end

def historyAll (s : State) : List Node → List Event
  | [] => []
  | n :: ns => history s n ++ historyAll (build s n).2 ns

/-- What happens while a forest is built. -/
def runHistory (forest : List Node) : List Event := historyAll (initial forest) forest

/-! ## Lemmas -/

theorem history_of_duplicate {s : State} {n : Node}
    (h : s.registry.isDuplicate n.index = true) : history s n = [] := by
  cases n
  rw [history]
  exact if_pos h

theorem history_of_first {s : State} {n : Node} (h : s.registry.isDuplicate n.index = false) :
    history s n = .opened n :: (historyChildren s n n.children ++
      [.closed n (buildChildren s n.children).1 (build s n).1]) := by
  cases n
  rw [history]
  exact if_neg (by simpa using h)

/-- A node that has ended has done so with an outcome. -/
theorem exists_of_mem_closed {log : List Event} {n : Node}
    (h : n ∈ closed (log.map Event.mark)) : ∃ g outcome, .closed n g outcome ∈ log := by
  obtain ⟨ev, hev, hmark⟩ := List.mem_map.mp (mem_closed.mp h)
  cases ev with
  | opened m => cases hmark
  | referred parent r target => cases hmark
  | closed m g outcome =>
    cases hmark
    exact ⟨g, outcome, hev⟩

/-! ## The history walks through the forest -/

/-- The numbers of the duplicates are remembered, and those of visited nodes are not. -/
structure Tells (r : Registry Object) (ms : List Mark) (duplicates : List Node) : Prop where
  visited : ∀ n ∈ opened ms, r.isDuplicate n.index = false
  repeated : ∀ n ∈ duplicates, r.isDuplicate n.index = true

theorem Tells.left {r : Registry Object} {ms ns : List Mark} {ds es : List Node}
    (h : Tells r (ms ++ ns) (ds ++ es)) : Tells r ms ds :=
  ⟨fun n hn => h.visited n (by simp [hn]), fun n hn => h.repeated n (List.mem_append_left _ hn)⟩

theorem Tells.right {r : Registry Object} {ms ns : List Mark} {ds es : List Node}
    (h : Tells r (ms ++ ns) (ds ++ es)) : Tells r ns es :=
  ⟨fun n hn => h.visited n (by simp [hn]), fun n hn => h.repeated n (List.mem_append_right _ hn)⟩

/-- Only what is remembered matters. -/
theorem Tells.congr {r t : Registry Object} {ms : List Mark} {ds : List Node} (h : Tells r ms ds)
    (hrt : t.duplicates = r.duplicates) : Tells t ms ds := by
  have heq : ∀ i, t.isDuplicate i = r.isDuplicate i := by
    intro i
    rw [Registry.isDuplicate, Registry.isDuplicate, hrt]
  refine ⟨fun n hn => ?_, fun n hn => ?_⟩
  · rw [heq]
    exact h.visited n hn
  · rw [heq]
    exact h.repeated n hn

mutual

theorem history_marks (seen : List String) (s : State) :
    ∀ n, Tells s.registry (tour seen n) (repeats seen n) → (history s n).map Event.mark = tour seen n
  | ⟨index, kind, type, id, name, location, properties, children, invalid⟩, h => by
    by_cases hr : Node.isRepeat seen
        ⟨index, kind, type, id, name, location, properties, children, invalid⟩ = true
    · have hdup := h.repeated _ (by rw [repeats_of_repeat hr]; exact List.mem_singleton_self _)
      rw [history_of_duplicate hdup, tour_of_repeat hr]
      rfl
    · have hfirst := Bool.eq_false_iff.mpr hr
      rw [tour_of_first hfirst, repeats_of_first hfirst] at h
      have hopen := h.visited _ List.mem_cons_self
      have hchildren : Tells s.registry (tourChildren (seen ++ id.toList)
          ⟨index, kind, type, id, name, location, properties, children, invalid⟩ children)
          (repeatsChildren (seen ++ id.toList) children) :=
        ⟨fun n hn => h.visited n (by simp [hn]), h.repeated⟩
      rw [history_of_first hopen, tour_of_first hfirst, List.map_cons, List.map_append,
        historyChildren_marks _ s _ children hchildren]
      rfl

theorem historyChildren_marks (seen : List String) (s : State) (parent : Node) :
    ∀ cs, Tells s.registry (tourChildren seen parent cs) (repeatsChildren seen cs) →
      (historyChildren s parent cs).map Event.mark = tourChildren seen parent cs
  | [], _ => rfl
  | .nested n :: cs, h => by
    rw [tourChildren, repeatsChildren] at h
    rw [historyChildren, tourChildren, List.map_append, history_marks seen s n h.left,
      historyChildren_marks _ _ parent cs (h.right.congr (build_duplicates s n))]
  | .reference r :: cs, h => by
    rw [tourChildren, repeatsChildren] at h
    have hcs : Tells s.registry (tourChildren seen parent cs) (repeatsChildren seen cs) :=
      ⟨h.visited, h.repeated⟩
    rw [historyChildren, tourChildren, List.map_cons,
      historyChildren_marks seen _ parent cs (hcs.congr (by rw [lookedUp_registry]))]
    rfl

end

theorem historyAll_marks (seen : List String) (s : State) (forest : List Node)
    (h : Tells s.registry (tourAll seen forest) (repeatsAll seen forest)) :
    (historyAll s forest).map Event.mark = tourAll seen forest := by
  induction forest generalizing seen s with
  | nil => rfl
  | cons n ns ih =>
    rw [tourAll, repeatsAll] at h
    rw [historyAll, tourAll, List.map_append, history_marks seen s n h.left,
      ih _ _ (h.right.congr (build_duplicates s n))]

/-- What is remembered when everything is declared tells the walk. -/
theorem tells_declared {forest : List Node}
    (hindex : ((preorder forest).map (·.index)).Nodup) :
    Tells (declared forest) (tourAll [] forest) (repeatsAll [] forest) := by
  refine ⟨fun n hn => ?_, fun n hn => isDuplicate_declared.mpr ⟨n, hn, rfl⟩⟩
  rw [Bool.eq_false_iff]
  intro hdup
  obtain ⟨m, hm, hmn⟩ := isDuplicate_declared.mp hdup
  exact index_ne_of_mem_repeatsAll hindex hn hm hmn.symm

/-- A numbered forest is built in document order, and the duplicates are left out. -/
theorem runHistory_marks {forest : List Node}
    (hindex : ((preorder forest).map (·.index)).Nodup) :
    (runHistory forest).map Event.mark = tourAll [] forest :=
  historyAll_marks [] (initial forest) forest (tells_declared hindex)

/-! ## Unresolved references -/

/-- Only a reference to nothing that is finished is refused. -/
theorem resolve_error {r : Registry Object} {id : String} {l : Location} {p : Problem}
    (h : r.resolve id l = .error p) : ∃ reason, p = .unresolvedReference id l reason := by
  unfold Registry.resolve at h
  split at h
  · exact ⟨_, (Except.error.inj h).symm⟩
  · split at h
    · cases h
    · cases h
    · exact ⟨_, (Except.error.inj h).symm⟩

theorem lookedUp_unresolved (s : State) (id : String) (l : Location) (parent : Node)
    (r : Reference) :
    (s.lookedUp (s.registry.resolve id l)).findings.filterMap Finding.unresolved? =
      s.findings.filterMap Finding.unresolved? ++
        [Event.referred parent r (s.registry.resolve id l)].filterMap Event.problem? := by
  cases h : s.registry.resolve id l with
  | ok t => simp [State.lookedUp, Event.problem?]
  | error p =>
    obtain ⟨reason, rfl⟩ := resolve_error h
    simp [State.lookedUp, Event.problem?, Finding.unresolved?, Problem.isUnresolved]

/-- No remark about a node is about references. -/
theorem not_unresolved_of_remark {s : Settings} {places : List Location} {p : Problem}
    (h : Remark s places p) : p.isUnresolved = false := by
  cases h <;> rfl

theorem finish_unresolved (n : Node) (children : Attached) (s : State) :
    (finish n children s).2.findings.filterMap Finding.unresolved? =
      s.findings.filterMap Finding.unresolved? := by
  have hinspect : ∀ p, Plugin.find? n.kind n.type = some p →
      (inspect p n children).2.filterMap Finding.unresolved? = [] := by
    intro p hp
    rw [List.filterMap_eq_nil_iff]
    intro f hf
    rcases inspect_remarks children hp hf with ⟨q, rfl, hq⟩ | ⟨u, rfl, -⟩
    · simp [Finding.unresolved?, not_unresolved_of_remark hq]
    · rfl
  obtain ⟨-, h⟩ | ⟨p, fs, hp, hi, h⟩ | ⟨p, product, fs, hp, hi, h⟩ := finish_cases n children s
  · simp [h, Finding.unresolved?, Problem.isUnresolved]
  · simpa [h, hi] using hinspect p hp
  · simpa [h, hi] using hinspect p hp

theorem conclude_unresolved (n : Node) (g : Gathered) (s : State) :
    (conclude n g s).2.findings.filterMap Finding.unresolved? =
      s.findings.filterMap Finding.unresolved? := by
  unfold conclude
  split
  · rfl
  · exact finish_unresolved n g.attached s

mutual

theorem build_unresolved (s : State) :
    ∀ n, (build s n).2.findings.filterMap Finding.unresolved? =
      s.findings.filterMap Finding.unresolved? ++ (history s n).filterMap Event.problem?
  | ⟨index, kind, type, id, name, location, properties, children, invalid⟩ => by
    by_cases h : s.registry.isDuplicate index = true
    · rw [build_of_duplicate h, history_of_duplicate h]
      simp
    · have hfirst := Bool.eq_false_iff.mpr h
      rw [build_state_of_first hfirst, history_of_first hfirst, publish_findings,
        conclude_unresolved, buildChildren_unresolved s
          ⟨index, kind, type, id, name, location, properties, children, invalid⟩ children]
      simp [List.filterMap_cons, Event.problem?]

theorem buildChildren_unresolved (s : State) (parent : Node) :
    ∀ cs, (buildChildren s cs).2.findings.filterMap Finding.unresolved? =
      s.findings.filterMap Finding.unresolved? ++
        (historyChildren s parent cs).filterMap Event.problem?
  | [] => by simp [buildChildren, historyChildren]
  | .nested n :: cs => by
    rw [buildChildren_nested, historyChildren, buildChildren_unresolved _ parent cs,
      build_unresolved s n, List.filterMap_append, List.append_assoc]
  | .reference r :: cs => by
    rw [buildChildren_reference, historyChildren, buildChildren_unresolved _ parent cs,
      lookedUp_unresolved s _ _ parent r, List.append_assoc, ← List.filterMap_append]
    rfl

end

theorem buildAll_unresolved (s : State) (forest : List Node) :
    (buildAll s forest).2.findings.filterMap Finding.unresolved? =
      s.findings.filterMap Finding.unresolved? ++ (historyAll s forest).filterMap Event.problem? := by
  induction forest generalizing s with
  | nil => simp [buildAll, historyAll]
  | cons n ns ih =>
    rw [buildAll_cons, ih, build_unresolved, historyAll, List.filterMap_append, List.append_assoc]

/-- A run finds the unresolved references of its history, in order and no others. -/
theorem run_unresolved (forest : List Node) :
    (run forest).2.filterMap Finding.unresolved? =
      (runHistory forest).filterMap Event.problem? := by
  have hstart : (initial forest).findings.filterMap Finding.unresolved? = [] := by
    rw [List.filterMap_eq_nil_iff]
    intro f hf
    obtain ⟨p, hp, rfl⟩ := List.mem_map.mp hf
    obtain ⟨id, first, second, rfl⟩ := declareAll_problems _ forest p hp
    rfl
  rw [run_eq, runHistory]
  simp only [buildAll_unresolved, hstart, List.nil_append]

/-! ## References and their nodes -/

/-- What the children of a node came to accords with what one of its references gives. -/
def Takes (r : Reference) (given : Option Object) (g : Gathered) : Prop :=
  match given with
  | some o => ⟨r.name, o, r.location, true⟩ ∈ g.attached.items
  | none => g.aborted = true

theorem takes_reference (r : Reference) (given : Option Object) (g : Gathered) :
    Takes r given (g.reference r given) := by
  cases given with
  | none => rfl
  | some o => exact List.mem_cons_self

theorem Takes.reference {r : Reference} {given : Option Object} {g : Gathered}
    (h : Takes r given g) (q : Reference) (t : Option Object) : Takes r given (g.reference q t) := by
  cases given <;> cases t
  · rfl
  · exact h
  · exact h
  · exact List.mem_cons_of_mem _ h

theorem Takes.nested {r : Reference} {given : Option Object} {g : Gathered}
    (h : Takes r given g) (n : Node) (outcome : Outcome) : Takes r given (g.nested n outcome) := by
  cases given <;> cases outcome
  · exact h
  · exact h
  · rfl
  · exact List.mem_cons_of_mem _ h
  · exact h
  · exact h

/-- The node of a reference ends in accord with the answer; without an object it is aborted. -/
def EndsWith (parent : Node) (r : Reference) (target : Except Problem (Option Object))
    (log : List Event) : Prop :=
  ∃ g outcome, .closed parent g outcome ∈ log ∧ Takes r (given? target) g ∧
    (given? target = none → outcome = .aborted)

theorem EndsWith.mono {parent : Node} {r : Reference} {target : Except Problem (Option Object)}
    {log more : List Event} (h : EndsWith parent r target log) (hsub : log ⊆ more) :
    EndsWith parent r target more := by
  obtain ⟨g, outcome, hmem, h⟩ := h
  exact ⟨g, outcome, hsub hmem, h⟩

/-- A node ends as its children say. -/
theorem endsWith_of_takes {s : State} {n : Node} (r : Reference)
    (target : Except Problem (Option Object)) (hfirst : s.registry.isDuplicate n.index = false)
    (h : Takes r (given? target) (buildChildren s n.children).1) :
    EndsWith n r target [.closed n (buildChildren s n.children).1 (build s n).1] := by
  refine ⟨_, _, List.mem_singleton_self _, h, fun hnone => ?_⟩
  rw [hnone] at h
  have haborted : (buildChildren s n.children).1.aborted = true := h
  rw [build_outcome_of_first hfirst, conclude, if_pos haborted]

mutual

theorem history_referred (s : State) {parent : Node} {r : Reference}
    {target : Except Problem (Option Object)} :
    ∀ n, .referred parent r target ∈ history s n → EndsWith parent r target (history s n)
  | ⟨index, kind, type, id, name, location, properties, children, invalid⟩, h => by
    by_cases hdup : s.registry.isDuplicate index = true
    · rw [history_of_duplicate hdup] at h
      cases h
    · have hfirst := Bool.eq_false_iff.mpr hdup
      rw [history_of_first hfirst] at h ⊢
      have hmem : .referred parent r target ∈ historyChildren s
          ⟨index, kind, type, id, name, location, properties, children, invalid⟩ children := by
        simpa using h
      rcases historyChildren_referred s _ children hmem with ⟨rfl, htakes⟩ | hends
      · refine (endsWith_of_takes r target hfirst htakes).mono ?_
        exact List.subset_cons_of_subset _ (List.subset_append_right _ _)
      · refine hends.mono ?_
        exact List.subset_cons_of_subset _ (List.subset_append_left _ _)

/-- A reference among the children `cs` of `top` or in one of their nodes. -/
theorem historyChildren_referred (s : State) (top : Node) {parent : Node} {r : Reference}
    {target : Except Problem (Option Object)} :
    ∀ cs, .referred parent r target ∈ historyChildren s top cs →
      (parent = top ∧ Takes r (given? target) (buildChildren s cs).1) ∨
        EndsWith parent r target (historyChildren s top cs)
  | [], h => by cases h
  | .nested n :: cs, h => by
    rw [historyChildren] at h ⊢
    rw [buildChildren_nested]
    rcases List.mem_append.mp h with h | h
    · exact .inr ((history_referred s n h).mono (List.subset_append_left _ _))
    · rcases historyChildren_referred _ top cs h with ⟨hparent, htakes⟩ | hends
      · exact .inl ⟨hparent, htakes.nested n _⟩
      · exact .inr (hends.mono (List.subset_append_right _ _))
  | .reference q :: cs, h => by
    rw [historyChildren] at h ⊢
    rw [buildChildren_reference]
    rcases List.mem_cons.mp h with h | h
    · obtain ⟨rfl, rfl, rfl⟩ := Event.referred.inj h
      exact .inl ⟨rfl, takes_reference _ _ _⟩
    · rcases historyChildren_referred _ top cs h with ⟨hparent, htakes⟩ | hends
      · exact .inl ⟨hparent, htakes.reference q _⟩
      · exact .inr (hends.mono (List.subset_cons_self _ _))

end

theorem historyAll_referred (s : State) (forest : List Node) {parent : Node} {r : Reference}
    {target : Except Problem (Option Object)} (h : .referred parent r target ∈ historyAll s forest) :
    EndsWith parent r target (historyAll s forest) := by
  induction forest generalizing s with
  | nil => cases h
  | cons n ns ih =>
    rw [historyAll] at h ⊢
    rcases List.mem_append.mp h with h | h
    · exact (history_referred s n h).mono (List.subset_append_left _ _)
    · exact (ih _ h).mono (List.subset_append_right _ _)

/-- In a run every reference gives its object to its node, or aborts it. -/
theorem runHistory_referred (forest : List Node) {parent : Node} {r : Reference}
    {target : Except Problem (Option Object)} (h : .referred parent r target ∈ runHistory forest) :
    EndsWith parent r target (runHistory forest) := historyAll_referred _ forest h

end Instantiation

end SceneGraph
