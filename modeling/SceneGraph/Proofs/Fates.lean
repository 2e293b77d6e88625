import SceneGraph.Proofs.History

/-!
# What becomes of every node

The fate of a child is what a run makes of it: a duplicate is omitted, a reference is answered,
and every other node ends with an outcome, behind the fates of its own children.  So the fates of
a forest are a tree of the same shape (`runFates`), and what a run finds and makes is the sum of
what the ends of nodes in it find and make:

    what a node knows of its children      buildChildren_eq
    the outcome of a node                  conclude_spec
    findings and arena of a run            build_adds, buildAll_adds
    objects at the top                     buildAll_roots
-/

namespace SceneGraph.Instantiation

inductive Fate where
  /-- A duplicate, with all it contains. -/
  | omitted (n : Node)
  | answered (r : Reference) (target : Except Problem (Option Object))
  | ended (n : Node) (inner : List Fate) (outcome : Outcome)

/-- The problem of a reference to nothing that is finished. -/
def refused? : Except Problem (Option Object) → Option Problem
  | .ok _ => none
  | .error p => some p

namespace Fate

/-- Whose fate it is. -/
def child : Fate → Child
  | omitted n => .nested n
  | answered r _ => .reference r
  | ended n _ _ => .nested n

/-- The node around it is cut short. -/
def cuts : Fate → Bool
  | omitted _ => true
  | answered _ target => (given? target).isNone
  | ended _ _ outcome => outcome = .aborted

def fails : Fate → Bool
  | omitted _ => false
  | answered _ _ => false
  | ended _ _ outcome => outcome = .failed

/-- What the node around it gets to hold. -/
def attachment? : Fate → Option Attachment
  | omitted _ => none
  | answered r target => (given? target).map fun o => ⟨r.name, o, r.location, true⟩
  | ended n _ outcome => outcome.object?.map fun o => ⟨n.name, o, n.location, false⟩

def failure? : Fate → Option NodeKind
  | omitted _ => none
  | answered _ _ => none
  | ended n _ outcome => if outcome = .failed then some n.kind else none

/-- The object at the top of a description. -/
def root? : Fate → Option Root
  | omitted _ => none
  | answered _ _ => none
  | ended n _ outcome => outcome.object?.map fun o => ⟨n.ref, o⟩

/-- The children of a node, as its plugin sees them. -/
def attached (inner : List Fate) : Attached :=
  ⟨inner.filterMap attachment?, inner.filterMap failure?⟩

/-- What is found about a node with these children. -/
def reports (n : Node) (inner : List Fate) : List Finding :=
  match Plugin.find? n.kind n.type with
  | none => [.problem (.unknownType n.kind n.type n.location)]
  | some p => (inspect p n (attached inner)).2

/-- What is made of a node with these children. -/
def makes (n : Node) (inner : List Fate) : Option Product :=
  (Plugin.find? n.kind n.type).bind fun p => (inspect p n (attached inner)).1

mutual

/-- All that is found on the way to a fate. An aborted node is not looked at. -/
def findings : Fate → List Finding
  | omitted _ => []
  | answered _ target => (refused? target).toList.map .problem
  | ended n inner outcome =>
    findingsAll inner ++ if outcome = .aborted then [] else reports n inner

def findingsAll : List Fate → List Finding
  | [] => []
  | f :: fs => f.findings ++ findingsAll fs

end

mutual

/-- All that is made on the way to a fate, with the ids of the nodes that it is made for. -/
def products : Fate → List (Option String × Product)
  | omitted _ => []
  | answered _ _ => []
  | ended n inner outcome =>
    productsAll inner ++ if outcome = .aborted then [] else (makes n inner).toList.map (n.id, ·)

def productsAll : List Fate → List (Option String × Product)
  | [] => []
  | f :: fs => f.products ++ productsAll fs

end

mutual

/-- A fate in front of all on the way to it. -/
def all : Fate → List Fate
  | omitted n => [omitted n]
  | answered r target => [answered r target]
  | ended n inner outcome => ended n inner outcome :: allIn inner

def allIn : List Fate → List Fate
  | [] => []
  | f :: fs => f.all ++ allIn fs

end

/-- A node ends as its children and its plugin have it. -/
structure Lawful (n : Node) (inner : List Fate) (outcome : Outcome) : Prop where
  children : inner.map child = n.children
  aborted : outcome = .aborted ↔ ∃ f ∈ inner, f.cuts = true
  failed : outcome = .failed ↔ outcome ≠ .aborted ∧
    (Plugin.find? n.kind n.type = none ∨ makes n inner = none ∨ ∃ f ∈ inner, f.fails = true)

/-- A fate in a run with the declared ids of `r`, where the fates `known` were met. -/
def Right (r : Registry Object) (known : List Fate) : Fate → Prop
  | omitted n => r.isDuplicate n.index = true
  | answered q (.error p) => ∃ reason, p = .unresolvedReference q.id q.location reason
  | answered q (.ok object) => ∃ m inner outcome, .ended m inner outcome ∈ known ∧
      m.id = some q.id ∧ outcome.object? = object
  | ended n inner outcome => r.isDuplicate n.index = false ∧ Lawful n inner outcome

end Fate

mutual

/-- The fate of a node that is built from a state. -/
def fate (s : State) : Node → Fate
  | ⟨index, kind, type, id, name, location, properties, children, invalid⟩ =>
    let n : Node := ⟨index, kind, type, id, name, location, properties, children, invalid⟩
    if s.registry.isDuplicate index then .omitted n
    else .ended n (fates s children) (build s n).1

def fates (s : State) : List Child → List Fate
  | [] => []
  | .nested n :: cs => fate s n :: fates (build s n).2 cs
  | .reference r :: cs =>
    let target := s.registry.resolve r.id r.location
    .answered r target :: fates (s.lookedUp target) cs

end

def fatesAll (s : State) : List Node → List Fate
  | [] => []
  | n :: ns => fate s n :: fatesAll (build s n).2 ns

/-- The fates of the nodes of a forest. -/
def runFates (forest : List Node) : List Fate := fatesAll (initial forest) forest

/-- The arena with products stored in it, each under an id. -/
def storeAll (a : Arena) (ps : List (Option String × Product)) : Arena :=
  ps.foldl (fun a p => (a.store p.1 p.2).2) a

/-- Every finished entry has the status of the end of a node with its id. -/
def Reflects (r : Registry Object) (past : List Fate) : Prop :=
  ∀ e ∈ r.entries, e.status ≠ .pending → ∃ m inner outcome,
    .ended m inner outcome ∈ past ∧ m.id = some e.id ∧ e.status = outcome.status

/-- To a state behind the fates `fs`, which are right and follow those of the past. -/
structure Leads (r : Registry Object) (past fs : List Fate) (t : State) : Prop where
  reflects : Reflects t.registry (past ++ fs)
  right : ∀ f ∈ fs, f.Right r (past ++ fs)

/-- From a state to one with more findings and products. -/
structure Adds (s t : State) (fs : List Finding) (ps : List (Option String × Product)) : Prop where
  findings : t.findings = s.findings ++ fs
  arena : t.arena = storeAll s.arena ps

/-! ## Lemmas -/

theorem fate_of_duplicate {s : State} {n : Node} (h : s.registry.isDuplicate n.index = true) :
    fate s n = .omitted n := by
  cases n
  rw [fate]
  exact if_pos h

theorem fate_of_first {s : State} {n : Node} (h : s.registry.isDuplicate n.index = false) :
    fate s n = .ended n (fates s n.children) (build s n).1 := by
  cases n
  rw [fate]
  exact if_neg (by simpa using h)

namespace Adds

variable {s t u : State} {fs gs : List Finding} {ps qs : List (Option String × Product)}

theorem refl (s : State) : Adds s s [] [] := ⟨(List.append_nil _).symm, rfl⟩

theorem trans (h : Adds s t fs ps) (h' : Adds t u gs qs) : Adds s u (fs ++ gs) (ps ++ qs) := by
  refine ⟨?_, ?_⟩
  · rw [h'.findings, h.findings, List.append_assoc]
  · rw [h'.arena, h.arena, storeAll, storeAll, storeAll, List.foldl_append]

theorem publish (h : Adds s t fs ps) (id : Option String) (index : Nat) (outcome : Outcome) :
    Adds s (t.publish id index outcome) fs ps :=
  ⟨(publish_findings _ _ _ _).trans h.findings, (publish_arena _ _ _ _).trans h.arena⟩

end Adds

theorem lookedUp_adds (s : State) (target : Except Problem (Option Object)) :
    Adds s (s.lookedUp target) ((refused? target).toList.map .problem) [] := by
  cases target with
  | ok o => exact .refl s
  | error p => exact ⟨rfl, rfl⟩

namespace Fate

theorem attached_cons (f : Fate) (fs : List Fate) : attached (f :: fs) =
    ⟨f.attachment?.toList ++ (attached fs).items, f.failure?.toList ++ (attached fs).failed⟩ := by
  unfold attached
  rw [List.filterMap_cons, List.filterMap_cons]
  cases f.attachment? <;> cases f.failure? <;> rfl

theorem attachment?_of_fails {f : Fate} (h : f.fails = true) : f.attachment? = none := by
  cases f with
  | omitted n => cases h
  | answered r target => cases h
  | ended n inner outcome =>
    obtain rfl := of_decide_eq_true h
    rfl

theorem failure?_isSome (f : Fate) : f.failure?.isSome = f.fails := by
  cases f with
  | omitted n => rfl
  | answered r target => rfl
  | ended n inner outcome => by_cases h : outcome = .failed <;> simp [failure?, fails, h]

theorem failure?_of_not_fails {f : Fate} (h : f.fails = false) : f.failure? = none := by
  rw [← failure?_isSome] at h
  exact Option.isNone_iff_eq_none.mp (Option.isSome_eq_false_iff.mp h)

theorem failed_isEmpty (inner : List Fate) :
    (attached inner).failed.isEmpty = !inner.any fails := by
  induction inner with
  | nil => rfl
  | cons f fs ih =>
    rw [attached_cons, List.any_cons, ← failure?_isSome]
    cases f.failure? with
    | none => exact ih
    | some k => rfl

end Fate

open Fate

/-- What building the children of a node gathers. -/
theorem buildChildren_eq (cs : List Child) : ∀ s : State,
    (buildChildren s cs).1 = ⟨attached (fates s cs), (fates s cs).any cuts⟩ := by
  induction cs with
  | nil => exact fun _ => rfl
  | cons c cs ih =>
    intro s
    cases c with
    | nested n =>
      rw [buildChildren_nested, ih, fates]
      by_cases h : s.registry.isDuplicate n.index = true
      · rw [fate_of_duplicate h, build_of_duplicate h]
        rfl
      · rw [fate_of_first (Bool.eq_false_iff.mpr h)]
        cases (build s n).1 <;> rfl
    | reference r =>
      rw [buildChildren_reference, fates]
      simp only [ih]
      cases s.registry.resolve r.id r.location with
      | error p => rfl
      | ok object => cases object <;> rfl

/-- The end of a node whose children have come to their fates. -/
structure Ends (n : Node) (inner : List Fate) (s : State) (outcome : Outcome) (t : State) :
    Prop where
  aborted : outcome = .aborted ↔ inner.any cuts = true
  failed : outcome = .failed ↔
    inner.any cuts = false ∧ (makes n inner = none ∨ inner.any fails = true)
  adds : Adds s t (if outcome = .aborted then [] else reports n inner)
    (if outcome = .aborted then [] else (makes n inner).toList.map (n.id, ·))

theorem told_of_unknown {n : Node} (h : Plugin.find? n.kind n.type = none) (inner : List Fate) :
    makes n inner = none ∧
      reports n inner = [.problem (.unknownType n.kind n.type n.location)] := by
  unfold makes reports
  rw [h]
  exact ⟨rfl, rfl⟩

theorem told_of_inspect {n : Node} {inner : List Fate} {p : Plugin} {product : Option Product}
    {fs : List Finding} (hp : Plugin.find? n.kind n.type = some p)
    (hi : inspect p n (attached inner) = (product, fs)) :
    makes n inner = product ∧ reports n inner = fs := by
  unfold makes reports
  rw [hp, Option.bind_some]
  exact ⟨congrArg Prod.fst hi, congrArg Prod.snd hi⟩

theorem Ends.of_uncut {n : Node} {inner : List Fate} {s t : State} {outcome : Outcome}
    (hcuts : inner.any cuts = false) (hend : outcome ≠ .aborted)
    (hfailed : outcome = .failed ↔ makes n inner = none ∨ inner.any fails = true)
    (hadds : Adds s t (reports n inner) ((makes n inner).toList.map (n.id, ·))) :
    Ends n inner s outcome t := by
  refine ⟨iff_of_false hend (by simp [hcuts]), ?_, ?_⟩
  · rw [hfailed]
    exact (and_iff_right hcuts).symm
  · rw [if_neg hend, if_neg hend]
    exact hadds

theorem conclude_ends (n : Node) (inner : List Fate) (s : State) :
    Ends n inner s (conclude n ⟨attached inner, inner.any cuts⟩ s).1
      (conclude n ⟨attached inner, inner.any cuts⟩ s).2 := by
  unfold conclude
  cases hcuts : inner.any cuts with
  | true => exact ⟨by simp [hcuts], by simp [hcuts], .refl s⟩
  | false =>
    simp only [Bool.false_eq_true, if_false]
    obtain ⟨hp, h⟩ | ⟨p, fs, hp, hi, h⟩ | ⟨p, product, fs, hp, hi, h⟩ :=
      finish_cases n (attached inner) s
    · obtain ⟨hmakes, hreports⟩ := told_of_unknown hp inner
      rw [h]
      refine .of_uncut hcuts nofun (iff_of_true rfl (.inl hmakes)) ?_
      rw [hmakes, hreports]
      exact ⟨rfl, rfl⟩
    · obtain ⟨hmakes, hreports⟩ := told_of_inspect hp hi
      rw [h]
      refine .of_uncut hcuts nofun (iff_of_true rfl (.inl hmakes)) ?_
      rw [hmakes, hreports]
      exact ⟨rfl, rfl⟩
    · obtain ⟨hmakes, hreports⟩ := told_of_inspect hp hi
      have hadds : Adds s { s.add fs with arena := (s.arena.store n.id product).2 }
          (reports n inner) ((makes n inner).toList.map (n.id, ·)) := by
        rw [hmakes, hreports]
        exact ⟨rfl, rfl⟩
      rw [h, failed_isEmpty]
      cases hfails : inner.any fails with
      | true => exact .of_uncut hcuts nofun (iff_of_true rfl (.inr hfails)) hadds
      | false => exact .of_uncut hcuts nofun (by simp [hmakes, hfails]) hadds

theorem build_ends {s : State} {n : Node} (h : s.registry.isDuplicate n.index = false) :
    Ends n (fates s n.children) (buildChildren s n.children).2 (build s n).1
      (conclude n (buildChildren s n.children).1 (buildChildren s n.children).2).2 := by
  have hends := conclude_ends n (fates s n.children) (buildChildren s n.children).2
  rwa [← buildChildren_eq, ← build_outcome_of_first h] at hends

mutual

/-- Building a node adds what its fate tells. -/
theorem build_adds (s : State) :
    ∀ n, Adds s (build s n).2 (fate s n).findings (fate s n).products
  | ⟨index, kind, type, id, name, location, properties, children, invalid⟩ => by
    by_cases h : s.registry.isDuplicate index = true
    · rw [build_of_duplicate h, fate_of_duplicate h]
      exact .refl s
    · have hfirst := Bool.eq_false_iff.mpr h
      rw [build_state_of_first hfirst, fate_of_first hfirst]
      have hends := build_ends
        (n := ⟨index, kind, type, id, name, location, properties, children, invalid⟩) hfirst
      exact ((buildChildren_adds s children).trans hends.adds).publish _ _ _

theorem buildChildren_adds (s : State) :
    ∀ cs, Adds s (buildChildren s cs).2 (findingsAll (fates s cs)) (productsAll (fates s cs))
  | [] => .refl s
  | .nested n :: cs => by
    rw [buildChildren_nested, fates]
    exact (build_adds s n).trans (buildChildren_adds _ cs)
  | .reference r :: cs => by
    rw [buildChildren_reference, fates]
    exact (lookedUp_adds s _).trans (buildChildren_adds _ cs)

end

theorem buildAll_adds (s : State) (forest : List Node) :
    Adds s (buildAll s forest).2 (findingsAll (fatesAll s forest))
      (productsAll (fatesAll s forest)) := by
  induction forest generalizing s with
  | nil => exact .refl s
  | cons n ns ih =>
    rw [buildAll_cons, fatesAll]
    exact (build_adds s n).trans (ih _)

theorem buildAll_roots (s : State) (forest : List Node) :
    (buildAll s forest).1 = (fatesAll s forest).filterMap root? := by
  induction forest generalizing s with
  | nil => rfl
  | cons n ns ih =>
    have hroot : (fate s n).root? = (build s n).1.object?.map fun o => ⟨n.ref, o⟩ := by
      by_cases h : s.registry.isDuplicate n.index = true
      · rw [fate_of_duplicate h, build_of_duplicate h]
        rfl
      · rw [fate_of_first (Bool.eq_false_iff.mpr h)]
        rfl
    rw [buildAll_cons, fatesAll, List.filterMap_cons, hroot, ih]
    cases (build s n).1.object? <;> rfl

/-! ## Every fate is right -/

namespace Fate

theorem Right.mono {r : Registry Object} {known known' : List Fate} {f : Fate}
    (h : f.Right r known) (hsub : known ⊆ known') : f.Right r known' := by
  match f with
  | omitted n => exact h
  | answered q (.error p) => exact h
  | answered q (.ok object) =>
    obtain ⟨m, inner, outcome, hmem, hid, hobject⟩ := h
    exact ⟨m, inner, outcome, hsub hmem, hid, hobject⟩
  | ended n inner outcome => exact h

end Fate

theorem Reflects.mono {r : Registry Object} {past past' : List Fate} (h : Reflects r past)
    (hsub : past ⊆ past') : Reflects r past' := by
  intro e he hstatus
  obtain ⟨m, inner, outcome, hmem, hid, hend⟩ := h e he hstatus
  exact ⟨m, inner, outcome, hsub hmem, hid, hend⟩

/-- The end of a node is reflected where the entry is its own. -/
theorem Reflects.publish {s : State} {past : List Fate} (h : Reflects s.registry past) {n : Node}
    {inner : List Fate} {outcome : Outcome} (hmem : .ended n inner outcome ∈ past) :
    Reflects (s.publish n.id n.index outcome).registry past := by
  cases hid : n.id with
  | none => exact h
  | some id =>
    intro e he hstatus
    rw [publish_registry_some] at he
    obtain ⟨e', he', rfl⟩ := List.mem_map.mp he
    by_cases hown : e'.id = id ∧ e'.index = n.index
    · rw [if_pos hown]
      exact ⟨n, inner, outcome, hmem, by rw [hid, hown.1], rfl⟩
    · rw [if_neg hown] at hstatus ⊢
      exact h e' he' hstatus

/-- A reference that gets an answer is answered by what an end has left. -/
theorem Reflects.answer {r : Registry Object} {past : List Fate} (h : Reflects r past) {id : String}
    {l : Location} {object : Option Object} (hanswer : r.resolve id l = .ok object) :
    ∃ m inner outcome, .ended m inner outcome ∈ past ∧ m.id = some id ∧
      outcome.object? = object := by
  unfold Registry.resolve at hanswer
  split at hanswer
  · cases hanswer
  · next e hfind =>
    have he := List.mem_of_find?_eq_some hfind
    obtain rfl := Registry.id_of_find? hfind
    cases hstatus : e.status with
    | pending =>
      simp only [hstatus] at hanswer
      cases hanswer
    | built o =>
      obtain ⟨m, inner, outcome, hmem, hid, hend⟩ := h e he (by rw [hstatus]; exact nofun)
      simp only [hstatus] at hanswer hend
      refine ⟨m, inner, outcome, hmem, hid, ?_⟩
      rw [built_of_status hend.symm]
      exact Except.ok.inj hanswer
    | failed =>
      obtain ⟨m, inner, outcome, hmem, hid, hend⟩ := h e he (by rw [hstatus]; exact nofun)
      simp only [hstatus] at hanswer hend
      refine ⟨m, inner, outcome, hmem, hid, ?_⟩
      rw [object?_of_status_failed hend.symm]
      exact Except.ok.inj hanswer

theorem fate_child (s : State) (n : Node) : (fate s n).child = .nested n := by
  by_cases h : s.registry.isDuplicate n.index = true
  · rw [fate_of_duplicate h]
    rfl
  · rw [fate_of_first (Bool.eq_false_iff.mpr h)]
    rfl

theorem fates_child (cs : List Child) : ∀ s : State, (fates s cs).map child = cs := by
  induction cs with
  | nil => exact fun _ => rfl
  | cons c cs ih =>
    intro s
    cases c with
    | nested n => rw [fates, List.map_cons, fate_child, ih]
    | reference r =>
      rw [fates, List.map_cons, ih]
      rfl

theorem fatesAll_child (s : State) (forest : List Node) :
    (fatesAll s forest).map child = forest.map .nested := by
  induction forest generalizing s with
  | nil => rfl
  | cons n ns ih => rw [fatesAll, List.map_cons, List.map_cons, fate_child, ih]

theorem build_lawful {s : State} {n : Node} (h : s.registry.isDuplicate n.index = false) :
    Lawful n (fates s n.children) (build s n).1 := by
  have hends := build_ends h
  refine ⟨fates_child n.children s, hends.aborted.trans List.any_eq_true, ?_⟩
  rw [hends.failed, Ne, hends.aborted, Bool.not_eq_true, List.any_eq_true]
  exact and_congr_right fun _ =>
    ⟨.inr, fun h => h.elim (fun hp => .inl (told_of_unknown hp _).1) id⟩

theorem Leads.append {r : Registry Object} {past fs gs : List Fate} {t u : State}
    (h : Leads r past fs t) (h' : Leads r (past ++ fs) gs u) : Leads r past (fs ++ gs) u := by
  refine ⟨?_, List.forall_mem_append.mpr ⟨fun f hf => ?_, fun f hf => ?_⟩⟩
  · rw [← List.append_assoc]
    exact h'.reflects
  · rw [← List.append_assoc]
    exact (h.right f hf).mono (List.subset_append_left _ _)
  · rw [← List.append_assoc]
    exact h'.right f hf

section

variable {r : Registry Object} {s : State} {past : List Fate}

theorem leads_omitted {n : Node} (hs : Reflects s.registry past)
    (h : r.isDuplicate n.index = true) : Leads r past [omitted n] s :=
  ⟨hs.mono (List.subset_append_left _ _), List.forall_mem_singleton.mpr h⟩

theorem leads_answered (hs : Reflects s.registry past) (q : Reference) :
    Leads r past [answered q (s.registry.resolve q.id q.location)]
      (s.lookedUp (s.registry.resolve q.id q.location)) := by
  have hpast := List.subset_append_left past
    [answered q (s.registry.resolve q.id q.location)]
  refine ⟨?_, List.forall_mem_singleton.mpr (Right.mono ?_ hpast)⟩
  · rw [lookedUp_registry]
    exact hs.mono hpast
  · cases hresolve : s.registry.resolve q.id q.location with
    | ok object => exact hs.answer hresolve
    | error p => exact resolve_error hresolve

/-- A node that is visited ends behind its children. -/
theorem leads_ended {n : Node} (hflag : r.isDuplicate n.index = false)
    (h : s.registry.isDuplicate n.index = false)
    (hchildren : Leads r past (allIn (fates s n.children)) (buildChildren s n.children).2) :
    Leads r past (fate s n).all (build s n).2 := by
  rw [fate_of_first h, all]
  have hsub : past ++ allIn (fates s n.children) ⊆
      past ++ .ended n (fates s n.children) (build s n).1 :: allIn (fates s n.children) :=
    List.append_subset.mpr ⟨List.subset_append_left _ _,
      List.Subset.trans (List.subset_cons_self _ _) (List.subset_append_right _ _)⟩
  refine ⟨?_, List.forall_mem_cons.mpr ⟨?_, fun f hf => (hchildren.right f hf).mono hsub⟩⟩
  · rw [build_state_of_first h]
    refine Reflects.publish ?_ (List.mem_append_right _ List.mem_cons_self)
    rw [conclude_registry]
    exact hchildren.reflects.mono hsub
  · exact ⟨hflag, build_lawful h⟩

end

mutual

theorem build_leads {r : Registry Object} {s : State} {past : List Fate}
    (hd : s.registry.duplicates = r.duplicates) (hs : Reflects s.registry past) :
    ∀ n, Leads r past (fate s n).all (build s n).2
  | ⟨index, kind, type, id, name, location, properties, children, invalid⟩ => by
    have hflag : r.isDuplicate index = s.registry.isDuplicate index := by
      rw [Registry.isDuplicate, Registry.isDuplicate, hd]
    by_cases h : s.registry.isDuplicate index = true
    · rw [build_of_duplicate h, fate_of_duplicate h]
      exact leads_omitted hs (hflag.trans h)
    · have hfirst := Bool.eq_false_iff.mpr h
      exact leads_ended (hflag.trans hfirst) hfirst (buildChildren_leads hd hs children)

theorem buildChildren_leads {r : Registry Object} {s : State} {past : List Fate}
    (hd : s.registry.duplicates = r.duplicates) (hs : Reflects s.registry past) :
    ∀ cs, Leads r past (allIn (fates s cs)) (buildChildren s cs).2
  | [] => ⟨hs.mono (List.subset_append_left _ _), List.forall_mem_nil _⟩
  | .nested n :: cs => by
    have hnode := build_leads hd hs n
    rw [buildChildren_nested, fates, allIn]
    exact hnode.append
      (buildChildren_leads ((build_duplicates s n).trans hd) hnode.reflects cs)
  | .reference q :: cs => by
    have hq := leads_answered (r := r) hs q
    have hd' : (s.lookedUp (s.registry.resolve q.id q.location)).registry.duplicates =
        r.duplicates := by rw [lookedUp_registry, hd]
    rw [buildChildren_reference, fates, allIn, all]
    exact hq.append (buildChildren_leads hd' hq.reflects cs)

end

theorem buildAll_leads {r : Registry Object} (forest : List Node) : ∀ {s : State}
    {past : List Fate}, s.registry.duplicates = r.duplicates → Reflects s.registry past →
    Leads r past (allIn (fatesAll s forest)) (buildAll s forest).2 := by
  induction forest with
  | nil => exact fun _ hs => ⟨hs.mono (List.subset_append_left _ _), List.forall_mem_nil _⟩
  | cons n ns ih =>
    intro s past hd hs
    have hnode := build_leads hd hs n
    rw [buildAll_cons, fatesAll, allIn]
    exact hnode.append (ih ((build_duplicates s n).trans hd) hnode.reflects)

/-- The fates of a forest are right. -/
theorem runFates_right (forest : List Node) : ∀ f ∈ allIn (runFates forest),
    f.Right (declared forest) (allIn (runFates forest)) := by
  have hs : Reflects (initial forest).registry [] := fun e he hstatus =>
    absurd (pending_of_mem_declared he) hstatus
  exact (buildAll_leads forest rfl hs).right

end SceneGraph.Instantiation
