import SceneGraph.Proofs.History

/-!
# What references resolve to

A reference is answered by the entry of its id, and the entries at any point of a run are the
declared ones with the status that the ends of nodes so far have given them
(`runHistory_answered`).  With the walk of `Tour` this settles every reference
(`readForest_references`):

    no visited node has the id             → unresolved, undeclared
    the visited node has not ended yet     → unresolved, unfinished
    it has ended with an object            → this object
    it has ended without one               → nothing, and the reference's node is aborted
-/

namespace SceneGraph.Instantiation

/-! ## Definitions -/

/-- The entry `e` after an event: the end of the node that owns it sets its status. -/
def Event.settle (ev : Event) (e : Entry Object) : Entry Object :=
  match ev with
  | .closed n _ outcome =>
    if n.id = some e.id ∧ n.index = e.index then { e with status := outcome.status } else e
  | _ => e

/-- The entry after some events. -/
def settleAll (log : List Event) (e : Entry Object) : Entry Object :=
  log.foldl (fun e ev => ev.settle e) e

/-- What a reference is answered when `entry` is the entry of its id. -/
def reply (entry : Option (Entry Object)) (r : Reference) : Except Problem (Option Object) :=
  match entry with
  | none => .error (.unresolvedReference r.id r.location .undeclared)
  | some e =>
    match e.status with
    | .built o => .ok (some o)
    | .failed => .ok none
    | .pending => .error (.unresolvedReference r.id r.location (.unfinished e.kind e.location))

/-- Every reference in a log is answered by the entries of the start, settled by what the log
has so far. -/
def Answered (find : String → Option (Entry Object)) : List Event → Prop
  | [] => True
  | ev :: log =>
    (∀ parent r target, ev = .referred parent r target → target = reply (find r.id) r) ∧
      Answered (fun id => (find id).map ev.settle) log

/-! ## Settling entries -/

@[simp] theorem settle_opened (n : Node) : (Event.opened n).settle = id := rfl

@[simp] theorem settle_referred (parent : Node) (r : Reference)
    (target : Except Problem (Option Object)) :
    (Event.referred parent r target).settle = id := rfl

theorem settleAll_nil : settleAll [] = id := rfl

theorem settleAll_cons (ev : Event) (log : List Event) :
    settleAll (ev :: log) = settleAll log ∘ ev.settle := rfl

theorem settleAll_append (xs ys : List Event) :
    settleAll (xs ++ ys) = settleAll ys ∘ settleAll xs := by
  funext e
  exact List.foldl_append

/-- Only the status of an entry is ever set. -/
theorem settleAll_eq (log : List Event) (e : Entry Object) :
    ∃ st, settleAll log e = { e with status := st } := by
  induction log generalizing e with
  | nil => exact ⟨e.status, rfl⟩
  | cons ev log ih =>
    rw [settleAll_cons, Function.comp]
    have hev : ∃ st, ev.settle e = { e with status := st } := by
      unfold Event.settle
      split
      · split
        · exact ⟨_, rfl⟩
        · exact ⟨e.status, rfl⟩
      · exact ⟨e.status, rfl⟩
    obtain ⟨st, hst⟩ := hev
    rw [hst]
    exact ih _

/-- An entry stays as it is until a node that owns it ends. -/
theorem settleAll_of_not_closed {log : List Event} {e : Entry Object}
    (h : ∀ n ∈ closed (log.map Event.mark), ¬ (n.id = some e.id ∧ n.index = e.index)) :
    settleAll log e = e := by
  induction log with
  | nil => rfl
  | cons ev log ih =>
    rw [List.map_cons] at h
    rw [settleAll_cons, Function.comp]
    cases ev with
    | opened n => exact ih h
    | referred parent r target => exact ih h
    | closed n g outcome =>
      rw [show (Event.closed n g outcome).settle e = e from if_neg (h n List.mem_cons_self)]
      exact ih fun m hm => h m (List.mem_cons_of_mem _ hm)

/-- The last end of a node that owns an entry settles it. -/
theorem settleAll_of_closed {xs ys : List Event} {e : Entry Object} {n : Node} {g : Gathered}
    {outcome : Outcome} (hid : n.id = some e.id) (hindex : n.index = e.index)
    (h : ∀ m ∈ closed (ys.map Event.mark), ¬ (m.id = some e.id ∧ m.index = e.index)) :
    settleAll (xs ++ .closed n g outcome :: ys) e = { e with status := outcome.status } := by
  rw [settleAll_append, settleAll_cons]
  simp only [Function.comp]
  obtain ⟨st, hst⟩ := settleAll_eq xs e
  have hset : (Event.closed n g outcome).settle (settleAll xs e) =
      { e with status := outcome.status } := by
    rw [hst]
    exact if_pos ⟨hid, hindex⟩
  rw [hset]
  exact settleAll_of_not_closed h

/-! ## The registry and its answers -/

/-- The end of a node settles the entry that it owns. -/
theorem publish_entries (s : State) (n : Node) (g : Gathered) (outcome : Outcome) :
    (s.publish n.id n.index outcome).registry.entries =
      s.registry.entries.map (Event.closed n g outcome).settle := by
  cases hid : n.id with
  | none =>
    have hsame : (Event.closed n g outcome).settle = id := by
      funext e
      simp [Event.settle, hid]
    rw [publish_registry_none, hsame, List.map_id]
  | some id =>
    rw [publish_registry_some]
    refine congrArg (List.map · s.registry.entries) ?_
    funext e
    simp only [Event.settle, hid, Option.some.injEq, eq_comm]

theorem resolve_eq_reply (r : Registry Object) (q : Reference) :
    r.resolve q.id q.location = reply (r.find? q.id) q := by
  unfold Registry.resolve reply
  cases r.find? q.id with
  | none => rfl
  | some e =>
    dsimp only
    cases e.status <;> rfl

theorem answered_append (find : String → Option (Entry Object)) (xs ys : List Event) :
    Answered find (xs ++ ys) ↔
      Answered find xs ∧ Answered (fun id => (find id).map (settleAll xs)) ys := by
  induction xs generalizing find with
  | nil => simp [Answered, settleAll_nil]
  | cons ev xs ih =>
    rw [List.cons_append, Answered, Answered, ih, and_assoc, settleAll_cons]
    simp only [Option.map_map]

mutual

/-- The registry after a node. -/
theorem build_entries (s : State) :
    ∀ n, (build s n).2.registry.entries = s.registry.entries.map (settleAll (history s n))
  | ⟨index, kind, type, id, name, location, properties, children, invalid⟩ => by
    by_cases h : s.registry.isDuplicate index = true
    · rw [build_of_duplicate h, history_of_duplicate h, settleAll_nil, List.map_id]
    · have hfirst := Bool.eq_false_iff.mpr h
      rw [build_state_of_first hfirst, history_of_first hfirst, publish_entries _ _
        (buildChildren s children).1, conclude_registry, buildChildren_entries s
        ⟨index, kind, type, id, name, location, properties, children, invalid⟩ children,
        List.map_map, settleAll_cons, settleAll_append]
      rfl

theorem buildChildren_entries (s : State) (parent : Node) :
    ∀ cs, (buildChildren s cs).2.registry.entries =
      s.registry.entries.map (settleAll (historyChildren s parent cs))
  | [] => (List.map_id _).symm
  | .nested n :: cs => by
    rw [buildChildren_nested, historyChildren, buildChildren_entries _ parent cs,
      build_entries s n, List.map_map, settleAll_append]
  | .reference r :: cs => by
    rw [buildChildren_reference, historyChildren, buildChildren_entries _ parent cs,
      lookedUp_registry]
    rfl

end

theorem buildAll_entries (s : State) (forest : List Node) :
    (buildAll s forest).2.registry.entries =
      s.registry.entries.map (settleAll (historyAll s forest)) := by
  induction forest generalizing s with
  | nil => exact (List.map_id _).symm
  | cons n ns ih =>
    rw [buildAll_cons, historyAll, ih, build_entries s n, List.map_map, settleAll_append]

theorem build_find? (x : String) (s : State) (n : Node) :
    (build s n).2.registry.find? x = (s.registry.find? x).map (settleAll (history s n)) := by
  refine Registry.find?_of_entries (build_entries s n) (fun e => ?_) x
  obtain ⟨st, hst⟩ := settleAll_eq (history s n) e
  rw [hst]

mutual

theorem history_answered (s : State) : ∀ n, Answered s.registry.find? (history s n)
  | ⟨index, kind, type, id, name, location, properties, children, invalid⟩ => by
    by_cases h : s.registry.isDuplicate index = true
    · rw [history_of_duplicate h]
      trivial
    · rw [history_of_first (Bool.eq_false_iff.mpr h)]
      refine ⟨by simp, ?_⟩
      rw [answered_append]
      refine ⟨?_, by simp, trivial⟩
      simpa using historyChildren_answered s
        ⟨index, kind, type, id, name, location, properties, children, invalid⟩ children

theorem historyChildren_answered (s : State) (parent : Node) :
    ∀ cs, Answered s.registry.find? (historyChildren s parent cs)
  | [] => trivial
  | .nested n :: cs => by
    rw [historyChildren, answered_append]
    refine ⟨history_answered s n, ?_⟩
    have hfind : (fun id => (s.registry.find? id).map (settleAll (history s n))) =
        (build s n).2.registry.find? := by
      funext x
      rw [build_find?]
    rw [hfind]
    exact historyChildren_answered _ parent cs
  | .reference r :: cs => by
    rw [historyChildren]
    refine ⟨fun p q t h => ?_, ?_⟩
    · obtain ⟨-, rfl, rfl⟩ := Event.referred.inj h
      exact resolve_eq_reply _ _
    · have hcs := historyChildren_answered
        (s.lookedUp (s.registry.resolve r.id r.location)) parent cs
      rw [lookedUp_registry] at hcs
      simpa using hcs

end

theorem historyAll_answered (s : State) (forest : List Node) :
    Answered s.registry.find? (historyAll s forest) := by
  induction forest generalizing s with
  | nil => trivial
  | cons n ns ih =>
    rw [historyAll, answered_append]
    refine ⟨history_answered s n, ?_⟩
    have hfind : (fun id => (s.registry.find? id).map (settleAll (history s n))) =
        (build s n).2.registry.find? := by
      funext x
      rw [build_find?]
    rw [hfind]
    exact ih _

/-- In a run every reference is answered by the declared entries, settled by the run so far. -/
theorem runHistory_answered (forest : List Node) :
    Answered (declared forest).find? (runHistory forest) :=
  historyAll_answered (initial forest) forest

/-- The answer to a reference behind the events `before` of a run. -/
theorem target_eq_reply {forest : List Node} {before after : List Event} {parent : Node}
    {r : Reference} {target : Except Problem (Option Object)}
    (h : runHistory forest = before ++ .referred parent r target :: after) :
    target = reply (((declared forest).find? r.id).map (settleAll before)) r := by
  have hanswered := runHistory_answered forest
  rw [h, answered_append] at hanswered
  exact hanswered.2.1 parent r target rfl

/-! ## Visited nodes -/

section

variable {forest : List Node} (hindex : ((preorder forest).map (·.index)).Nodup)
  {before after : List Event} {n : Node}

include hindex

/-- A node that has ended was visited. -/
theorem opened_of_closed (hlog : runHistory forest = before ++ after)
    (hn : n ∈ closed (before.map Event.mark)) : n ∈ opened (tourAll [] forest) := by
  rw [← (closed_perm_opened [] forest).mem_iff, ← runHistory_marks hindex, hlog, List.map_append,
    closed_append]
  exact List.mem_append_left _ hn

/-- No node ends twice. -/
theorem index_ne_of_closed {g : Gathered} {outcome : Outcome}
    (hlog : runHistory forest = before ++ .closed n g outcome :: after) {m : Node}
    (hm : m ∈ closed (after.map Event.mark)) : m.index ≠ n.index := by
  have hnodup := closed_index_nodup hindex
  rw [← runHistory_marks hindex, hlog, List.map_append, closed_append, List.map_append] at hnodup
  have hrest := (List.nodup_append.mp hnodup).2.1
  have hhead := (List.nodup_cons.mp hrest).1
  intro heq
  exact hhead (List.mem_map.mpr ⟨m, hm, heq⟩)

end

/-! ## References -/

section

variable {forest : List Node} (hindex : ((preorder forest).map (·.index)).Nodup)
  {before after : List Event} {parent : Node} {r : Reference}
  {target : Except Problem (Option Object)}
  (hlog : runHistory forest = before ++ .referred parent r target :: after)

include hlog in
theorem target_undeclared (h : ∀ d ∈ opened (tourAll [] forest), d.id ≠ some r.id) :
    target = .error (.unresolvedReference r.id r.location .undeclared) := by
  rw [target_eq_reply hlog, find?_declared_none h]
  rfl

include hindex hlog

theorem target_unfinished {d : Node} (hd : d ∈ opened (tourAll [] forest))
    (hid : d.id = some r.id) (hopen : d ∉ closed (before.map Event.mark)) :
    target = .error (.unresolvedReference r.id r.location (.unfinished d.kind d.location)) := by
  rw [target_eq_reply hlog, find?_declared_some hd hid, Option.map_some, settleAll_of_not_closed]
  · rfl
  · rintro m hm ⟨hmid, -⟩
    rw [eq_of_id_eq (opened_of_closed hindex hlog hm) hd hmid hid] at hm
    exact hopen hm

theorem target_closed {d : Node} {g : Gathered} {outcome : Outcome}
    (hd : d ∈ opened (tourAll [] forest)) (hid : d.id = some r.id)
    (hclosed : .closed d g outcome ∈ before) : target = .ok outcome.object? := by
  obtain ⟨xs, ys, rfl⟩ := List.append_of_mem hclosed
  have hmid : runHistory forest =
      xs ++ .closed d g outcome :: (ys ++ .referred parent r target :: after) := by
    rw [hlog]
    simp
  rw [target_eq_reply hlog, find?_declared_some hd hid, Option.map_some, settleAll_of_closed hid rfl]
  · cases outcome <;> rfl
  · rintro m hm ⟨-, hmindex⟩
    refine index_ne_of_closed hindex hmid ?_ hmindex
    rw [List.map_append, closed_append]
    exact List.mem_append_left _ hm

end

/-! ## Top theorem -/

/-- The unresolved references among the problems of a run, however strictly it is judged. -/
theorem unresolved_problems (strict : Bool) (fs : List Finding) :
    (Finding.problems strict fs).filter Problem.isUnresolved =
      fs.filterMap Finding.unresolved? := by
  induction fs with
  | nil => rfl
  | cons f fs ih =>
    rw [Finding.problems] at ih ⊢
    cases f with
    | problem p =>
      cases h : p.isUnresolved <;>
        simp [Finding.problem?, Finding.unresolved?, h, ih]
    | unused u =>
      cases strict <;>
        simp [List.filterMap_cons, Finding.problem?, Finding.unresolved?, Unused.problem,
          Problem.isUnresolved, ih]

/-- **References resolve to what has ended before them.**  A run over a forest that was read
from elements walks through it (`tourAll`).  Each reference on the way is unresolved unless the
visited node with its id has ended, and otherwise gives what this node ended with; without an
object it aborts its node.  The problems about references are those of the unresolved ones, in
document order. -/
theorem readForest_references (params : Parameter.Table) (next : Nat)
    (elements : List Markup.Element) :
    let forest := (Node.readForest params next elements).value
    let log := runHistory forest
    log.map Event.mark = tourAll [] forest ∧
    (∀ strict, (Finding.problems strict (run forest).2).filter Problem.isUnresolved =
      log.filterMap Event.problem?) ∧
    ∀ before parent r target after, log = before ++ .referred parent r target :: after →
      ((∀ d ∈ opened (tourAll [] forest), d.id ≠ some r.id) →
        target = .error (.unresolvedReference r.id r.location .undeclared)) ∧
      (∀ d ∈ opened (tourAll [] forest), d.id = some r.id →
        (.closes d ∉ before.map Event.mark →
          target = .error (.unresolvedReference r.id r.location
            (.unfinished d.kind d.location))) ∧
        ∀ g outcome, .closed d g outcome ∈ before → target = .ok outcome.object?) ∧
      ∃ g outcome, .closed parent g outcome ∈ log ∧ Takes r (given? target) g ∧
        (given? target = none → outcome = .aborted) := by
  intro forest log
  have hindex : ((preorder forest).map (·.index)).Nodup :=
    Node.readForest_index_nodup params next elements
  refine ⟨runHistory_marks hindex, fun strict => ?_, fun before parent r target after hlog => ?_⟩
  · rw [unresolved_problems, run_unresolved]
  · refine ⟨target_undeclared hlog, fun d hd hid => ⟨fun hopen => ?_, fun g outcome hclosed => ?_⟩, ?_⟩
    · exact target_unfinished hindex hlog hd hid (fun h => hopen (mem_closed.mp h))
    · exact target_closed hindex hlog hd hid hclosed
    · refine runHistory_referred forest ?_
      rw [show runHistory forest = _ from hlog]
      simp

end SceneGraph.Instantiation
