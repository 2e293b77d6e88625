import SceneGraph.Proofs.Building
import SceneGraph.Proofs.Declaration
import SceneGraph.Proofs.Slots

/-!
# Who uses the slots of the arena

While a forest is built, slots pass from the children of a node to the node and from there
into the arena.  `Transfer` accounts for them: a slot without an id that was there before gets
no new user, and one that is filled on the way gets at most one.  Transfers compose
(`Transfer.trans`), and what stays in hand meanwhile changes nothing (`Transfer.frame`).

* `store_transfer` is the step of one product, `conclude_transfer` that of one node.
* `build_sound` and `buildAll_sound` are the runs; between steps the state is `Sound`: a bsdf
  uses only bsdfs before it, and whatever an id gives out has that id or no slot.
* `run_owned` is the account at the end.
-/

namespace SceneGraph

namespace Arena

/-- The id with which a slot was filled, if it was. -/
def id? (a : Arena) : Slot → Option (Option String)
  | .bsdf h => a.bsdfs[h.index]?.map (·.id)
  | .volume h => a.volumes[h.index]?.map (·.id)

/-- The slots that the bsdfs of an arena use. -/
def uses (a : Arena) : List Slot := a.bsdfs.flatMap (·.bsdf.slots)

/-- Every bsdf uses only bsdfs that were there before it. -/
def Ordered (a : Arena) : Prop :=
  ∀ i e, a.bsdfs[i]? = some e → ∀ x ∈ e.bsdf.slots, ∃ h, x = Slot.bsdf h ∧ h.index < i

def Grows (a b : Arena) : Prop := ∃ bs vs, b = ⟨a.bsdfs ++ bs, a.volumes ++ vs⟩

/-- From an arena `a` with the slots `ins` in hand to an arena `b` with `outs` in hand. -/
structure Transfer (a : Arena) (ins : List Slot) (b : Arena) (outs : List Slot) : Prop where
  grows : a.Grows b
  held : ∀ x ∈ outs, b.id? x ≠ none
  owned : ∀ x, b.id? x = some none →
    b.uses.count x + outs.count x ≤
      a.uses.count x + ins.count x + if a.id? x = none then 1 else 0

/-! ## Growing arenas -/

theorem lt_of_held_bsdf {a : Arena} {h : BsdfHandle} (hx : a.id? (.bsdf h) ≠ none) :
    h.index < a.bsdfs.length := by
  by_contra hle
  apply hx
  simp [Arena.id?, List.getElem?_eq_none (Nat.le_of_not_lt hle)]

theorem lt_of_held_volume {a : Arena} {h : VolumeHandle} (hx : a.id? (.volume h) ≠ none) :
    h.index < a.volumes.length := by
  by_contra hle
  apply hx
  simp [Arena.id?, List.getElem?_eq_none (Nat.le_of_not_lt hle)]

theorem Grows.refl (a : Arena) : a.Grows a := ⟨[], [], by simp⟩

theorem Grows.trans {a b c : Arena} (h : a.Grows b) (h' : b.Grows c) : a.Grows c := by
  obtain ⟨bs, vs, rfl⟩ := h
  obtain ⟨bs', vs', rfl⟩ := h'
  exact ⟨bs ++ bs', vs ++ vs', by simp⟩

/-- A filled slot keeps its id. -/
theorem Grows.id? {a b : Arena} (h : a.Grows b) {x : Slot} (hx : a.id? x ≠ none) :
    b.id? x = a.id? x := by
  obtain ⟨bs, vs, rfl⟩ := h
  cases x with
  | bsdf h => simp [Arena.id?, List.getElem?_append_left (lt_of_held_bsdf hx)]
  | volume h => simp [Arena.id?, List.getElem?_append_left (lt_of_held_volume hx)]

theorem Grows.held {a b : Arena} (h : a.Grows b) {x : Slot} (hx : a.id? x ≠ none) :
    b.id? x ≠ none := by
  rw [h.id? hx]
  exact hx

/-- In an ordered arena no slot is used before it is filled. -/
theorem Ordered.count_uses {a : Arena} (ha : a.Ordered) {x : Slot} (hx : a.id? x = none) :
    a.uses.count x = 0 := by
  apply List.count_eq_zero_of_not_mem
  intro hmem
  obtain ⟨e, he, hslot⟩ := List.mem_flatMap.mp hmem
  obtain ⟨i, hi⟩ := List.getElem?_of_mem he
  obtain ⟨h, rfl, hlt⟩ := ha i e hi x hslot
  obtain ⟨hlen, -⟩ := List.getElem?_eq_some_iff.mp hi
  have hindex : h.index < a.bsdfs.length := Nat.lt_trans hlt hlen
  simp [Arena.id?, hindex] at hx

/-! ## Transfers -/

variable {a b c : Arena} {ins mid outs : List Slot}

theorem Transfer.refl (h : ∀ x ∈ ins, a.id? x ≠ none) : Transfer a ins a ins where
  grows := .refl a
  held := h
  owned := fun _ _ => Nat.le_add_right _ _

/-- A slot with an id may be handed out at any time. -/
theorem Transfer.of_named (h : ∀ x ∈ outs, ∃ id, a.id? x = some (some id)) :
    Transfer a [] a outs where
  grows := .refl a
  held := by
    intro x hx
    obtain ⟨id, hid⟩ := h x hx
    rw [hid]
    exact Option.some_ne_none _
  owned := by
    intro x hx
    have hzero : outs.count x = 0 := by
      apply List.count_eq_zero_of_not_mem
      intro hmem
      obtain ⟨id, hid⟩ := h x hmem
      rw [hid] at hx
      cases hx
    omega

/-- Slots may be dropped. -/
theorem Transfer.drop (h : Transfer a ins b outs) {outs' : List Slot}
    (hle : ∀ x, outs'.count x ≤ outs.count x) : Transfer a ins b outs' where
  grows := h.grows
  held := by
    intro x hx
    have hpos := List.count_pos_iff.mpr hx
    exact h.held x (List.count_pos_iff.mp (Nat.lt_of_lt_of_le hpos (hle x)))
  owned := by
    intro x hx
    have howned := h.owned x hx
    have hout := hle x
    omega

theorem Transfer.trans (hb : b.Ordered) (h : Transfer a ins b mid) (h' : Transfer b mid c outs) :
    Transfer a ins c outs where
  grows := h.grows.trans h'.grows
  held := h'.held
  owned := by
    intro x hx
    have hsecond := h'.owned x hx
    by_cases hxb : b.id? x = none
    · -- A slot filled on the second way had no user on the first.
      have hxa : a.id? x = none := by
        by_contra hxa
        exact h.grows.held hxa hxb
      have huses := hb.count_uses hxb
      have hmid : mid.count x = 0 :=
        List.count_eq_zero_of_not_mem fun hmem => h.held x hmem hxb
      rw [if_pos hxb] at hsecond
      rw [if_pos hxa]
      omega
    · have hxb' : b.id? x = some none := by rw [← h'.grows.id? hxb, hx]
      have hfirst := h.owned x hxb'
      rw [if_neg hxb] at hsecond
      omega

/-- Slots that stay in hand. -/
theorem Transfer.frame (h : Transfer a ins b outs) {rest : List Slot}
    (hrest : ∀ x ∈ rest, a.id? x ≠ none) : Transfer a (rest ++ ins) b (rest ++ outs) where
  grows := h.grows
  held := by
    intro x hx
    rcases List.mem_append.mp hx with hx | hx
    · exact h.grows.held (hrest x hx)
    · exact h.held x hx
  owned := by
    intro x hx
    have howned := h.owned x hx
    rw [List.count_append, List.count_append]
    omega

/-- What a first part leaves in hand is there beside what a second part leaves. -/
theorem Transfer.append (hb : b.Ordered) (h : Transfer a [] b mid) (h' : Transfer b [] c outs) :
    Transfer a [] c (mid ++ outs) := by
  have hframe := h'.frame h.held
  rw [List.append_nil] at hframe
  exact h.trans hb hframe

/-! ## One product -/

theorem store_ordered (ha : a.Ordered) (hins : ∀ x ∈ ins, a.id? x ≠ none) (id : Option String)
    {p : Product} (hp : p.Within ins) : (a.store id p).2.Ordered := by
  cases p with
  | object o => exact ha
  | volume v => exact ha
  | bsdf bsdf =>
    intro i e he x hx
    rcases Nat.lt_or_ge i a.bsdfs.length with hi | hi
    · have he' : a.bsdfs[i]? = some e := by
        rw [← he]
        exact (List.getElem?_append_left hi).symm
      exact ha i e he' x hx
    · have he' : [(⟨id, bsdf⟩ : BsdfEntry)][i - a.bsdfs.length]? = some e := by
        rw [← he]
        exact (List.getElem?_append_right hi).symm
      obtain rfl := List.mem_singleton.mp (List.mem_of_getElem? he')
      obtain ⟨h, -, rfl⟩ := List.mem_map.mp hx
      have hheld := hins _ (hp.mem hx)
      exact ⟨h, rfl, Nat.lt_of_lt_of_le (lt_of_held_bsdf hheld) hi⟩

/-- A new slot is in hand once, and what was in hand may be used up for it. -/
theorem Transfer.fill (hgrows : a.Grows b) {new : Slot} (hempty : a.id? new = none)
    (hfilled : b.id? new ≠ none)
    (huses : ∀ x, b.uses.count x ≤ a.uses.count x + ins.count x) : Transfer a ins b [new] where
  grows := hgrows
  held := by
    intro x hx
    obtain rfl := List.mem_singleton.mp hx
    exact hfilled
  owned := by
    intro x _
    have hx := huses x
    rw [List.count_singleton]
    by_cases hnew : new = x
    · rw [← hnew] at hx ⊢
      simp only [hempty, beq_self_eq_true, if_true]
      omega
    · rw [if_neg (by simpa using hnew)]
      omega

/-- An object gets the slots that its product used; a bsdf or volume becomes a new slot, which
nothing uses yet. -/
theorem store_transfer (hins : ∀ x ∈ ins, a.id? x ≠ none) (id : Option String) {p : Product}
    (hp : p.Within ins) : Transfer a ins (a.store id p).2 (a.store id p).1.slots := by
  cases p with
  | object o => exact (Transfer.refl hins).drop hp.uses
  | bsdf bsdf =>
    refine Transfer.fill ⟨[⟨id, bsdf⟩], [], by simp [store]⟩ ?_ ?_ fun x => ?_
    · simp [Arena.id?]
    · simp [store, Arena.id?]
    · have huses : (a.store id (.bsdf bsdf)).2.uses.count x =
          a.uses.count x + bsdf.slots.count x := by
        simp [store, uses, List.count_append]
      have hslots : bsdf.slots.count x ≤ ins.count x := hp.uses x
      omega
  | volume v =>
    refine Transfer.fill ⟨[], [⟨id, v⟩], by simp [store]⟩ ?_ ?_ fun x => ?_
    · simp [Arena.id?]
    · simp [store, Arena.id?]
    · exact Nat.le_add_right _ _

/-- An object that is a slot has the id that its node has. -/
theorem store_named (id : Option String) {p : Product} (hp : p.Within ins) {x : Slot}
    (hx : (a.store id p).1.slot? = some x) : (a.store id p).2.id? x = some id := by
  cases p with
  | object o =>
    have hplain : (a.store id (.object o)).1.slot? = none := hp.plain o rfl
    rw [hplain] at hx
    cases hx
  | bsdf bsdf =>
    obtain rfl := Option.some.inj hx
    simp [store, Arena.id?]
  | volume v =>
    obtain rfl := Option.some.inj hx
    simp [store, Arena.id?]

end Arena

/-- The slots that the object of an outcome uses. -/
def Outcome.slots : Outcome → List Slot
  | .built o => o.slots
  | .failed | .aborted => []

namespace Instantiation

open Arena (Transfer)

/-- A state between two steps. -/
structure Sound (s : State) : Prop where
  ordered : s.arena.Ordered
  /-- A slot that an id gives out was filled with this id. -/
  known : ∀ e ∈ s.registry.entries, ∀ o, e.status = .built o → ∀ x, o.slot? = some x →
    s.arena.id? x = some (some e.id)

variable {s t : State}

/-! ## One node -/

/-- What the arena gains in `t` leaves all that `s` knew as it was. -/
theorem Sound.of_grows (hs : Sound s) (hregistry : t.registry = s.registry)
    (hgrows : s.arena.Grows t.arena) (hordered : t.arena.Ordered) : Sound t where
  ordered := hordered
  known := by
    intro e he o ho x hx
    rw [hregistry] at he
    have hid := hs.known e he o ho x hx
    have hheld : s.arena.id? x ≠ none := by
      rw [hid]
      exact Option.some_ne_none _
    rw [hgrows.id? hheld, hid]

/-- Ending a node uses up what its children are. -/
theorem finish_transfer (n : Node) (children : Attached) (hs : Sound s)
    (hheld : ∀ x ∈ children.slots, s.arena.id? x ≠ none) :
    Transfer s.arena children.slots (finish n children s).2.arena (finish n children s).1.slots ∧
      (finish n children s).2.arena.Ordered ∧
      ∀ o x, (finish n children s).1 = .built o → o.slot? = some x →
        (finish n children s).2.arena.id? x = some n.id := by
  have hrefl := Transfer.refl hheld
  obtain ⟨-, h⟩ | ⟨p, fs, -, -, h⟩ | ⟨p, product, fs, hp, hinspect, h⟩ :=
    finish_cases n children s
  · rw [h]
    exact ⟨hrefl.drop fun _ => Nat.zero_le _, hs.ordered, fun o x ho => by cases ho⟩
  · rw [h]
    exact ⟨hrefl.drop fun _ => Nat.zero_le _, hs.ordered, fun o x ho => by cases ho⟩
  · have hproduct : (p.build children n.settings).1 = some product := congrArg Prod.fst hinspect
    have hwithin := Plugin.frugal_of_find? hp children n.settings product hproduct
    have hstore := Arena.store_transfer hheld n.id hwithin
    have hordered := Arena.store_ordered hs.ordered hheld n.id hwithin
    rw [h]
    by_cases hfailed : children.failed.isEmpty = true
    · rw [if_pos hfailed]
      refine ⟨hstore, hordered, fun o x ho hx => ?_⟩
      obtain rfl := Outcome.built.inj ho
      exact Arena.store_named n.id hwithin hx
    · rw [if_neg hfailed]
      exact ⟨hstore.drop fun _ => Nat.zero_le _, hordered, fun o x ho => by cases ho⟩

theorem conclude_transfer (n : Node) (g : Gathered) (hs : Sound s)
    (hheld : ∀ x ∈ g.attached.slots, s.arena.id? x ≠ none) :
    Transfer s.arena g.attached.slots (conclude n g s).2.arena (conclude n g s).1.slots ∧
      (conclude n g s).2.arena.Ordered ∧
      ∀ o x, (conclude n g s).1 = .built o → o.slot? = some x →
        (conclude n g s).2.arena.id? x = some n.id := by
  unfold conclude
  split
  · exact ⟨(Transfer.refl hheld).drop fun _ => Nat.zero_le _, hs.ordered, fun o x ho => by cases ho⟩
  · exact finish_transfer n g.attached hs hheld

/-- Making an outcome known keeps a state sound if its slot has the id under which it becomes
known. -/
theorem publish_sound (hs : Sound s) (id : Option String) (index : Nat) (outcome : Outcome)
    (hnamed : ∀ o x, outcome = .built o → o.slot? = some x → s.arena.id? x = some id) :
    Sound (s.publish id index outcome) where
  ordered := by
    rw [publish_arena]
    exact hs.ordered
  known := by
    intro e he o ho x hx
    rw [publish_arena]
    cases id with
    | none => exact hs.known e he o ho x hx
    | some id =>
      rw [publish_registry_some] at he
      obtain ⟨e', he', rfl⟩ := List.mem_map.mp he
      by_cases hown : e'.id = id ∧ e'.index = index
      · rw [if_pos hown] at ho ⊢
        cases outcome with
        | built o' =>
          obtain rfl := Status.built.inj ho
          rw [hnamed o' x rfl hx, ← hown.1]
        | failed => cases ho
        | aborted => cases ho
      · rw [if_neg hown] at ho ⊢
        exact hs.known e' he' o ho x hx

/-! ## Nodes and their children -/

theorem count_slot?_le (outcome : Outcome) (x : Slot) :
    (outcome.object?.bind Object.slot?).toList.count x ≤ outcome.slots.count x := by
  cases outcome with
  | built o => exact o.slot?_sublist.count_le x
  | failed => exact Nat.le_refl _
  | aborted => exact Nat.le_refl _

theorem nested_slots (g : Gathered) (n : Node) (outcome : Outcome) :
    (g.nested n outcome).attached.slots =
      (outcome.object?.bind Object.slot?).toList ++ g.attached.slots := by
  cases outcome with
  | built o => exact Attached.slots_cons _ _ _
  | failed => rfl
  | aborted => rfl

theorem reference_slots (g : Gathered) (r : Reference) (target : Option Object) :
    (g.reference r target).attached.slots =
      (target.bind Object.slot?).toList ++ g.attached.slots := by
  cases target with
  | some o => exact Attached.slots_cons _ _ _
  | none => rfl

/-- A reference gives a slot that was filled with its id. -/
theorem given?_named (hs : Sound s) (r : Reference) {x : Slot}
    (hx : (given? (s.registry.resolve r.id r.location)).bind Object.slot? = some x) :
    s.arena.id? x = some (some r.id) := by
  unfold Registry.resolve at hx
  cases hfind : s.registry.find? r.id with
  | none =>
    rw [hfind] at hx
    cases hx
  | some e =>
    rw [hfind] at hx
    cases hstatus : e.status with
    | pending =>
      simp only [hstatus] at hx
      cases hx
    | failed =>
      simp only [hstatus] at hx
      cases hx
    | built o =>
      simp only [hstatus] at hx
      rw [hs.known e (List.mem_of_find?_eq_some hfind) o hstatus x hx,
        Registry.id_of_find? hfind]

theorem lookedUp_sound (hs : Sound s) (r : Reference) :
    Sound (s.lookedUp (s.registry.resolve r.id r.location)) := by
  apply hs.of_grows (lookedUp_registry _ _)
  · rw [lookedUp_arena]
    exact .refl _
  · rw [lookedUp_arena]
    exact hs.ordered

mutual

/-- Building a node fills slots and leaves the rest of the arena to its users. -/
theorem build_sound {s : State} (hs : Sound s) : ∀ n, Sound (build s n).2 ∧
    Transfer s.arena [] (build s n).2.arena (build s n).1.slots
  | ⟨index, kind, type, id, name, location, properties, children, invalid⟩ => by
    by_cases h : s.registry.isDuplicate index = true
    · rw [build_of_duplicate h]
      exact ⟨hs, Transfer.refl fun x hx => by cases hx⟩
    · have hfirst := Bool.eq_false_iff.mpr h
      obtain ⟨hsound, hchildren⟩ := buildChildren_sound hs children
      obtain ⟨hend, hordered, hnamed⟩ := conclude_transfer
        ⟨index, kind, type, id, name, location, properties, children, invalid⟩
        (buildChildren s children).1 hsound hchildren.held
      rw [build_state_of_first hfirst, build_outcome_of_first hfirst, publish_arena]
      refine ⟨publish_sound ?_ _ _ _ hnamed, hchildren.trans hsound.ordered hend⟩
      exact hsound.of_grows (conclude_registry _ _ _) hend.grows hordered

theorem buildChildren_sound {s : State} (hs : Sound s) : ∀ cs, Sound (buildChildren s cs).2 ∧
    Transfer s.arena [] (buildChildren s cs).2.arena (buildChildren s cs).1.attached.slots
  | [] => ⟨hs, Transfer.refl fun x hx => by cases hx⟩
  | .nested n :: cs => by
    obtain ⟨hn, hnode⟩ := build_sound hs n
    obtain ⟨hcs, hrest⟩ := buildChildren_sound hn cs
    rw [buildChildren_nested]
    refine ⟨hcs, ?_⟩
    rw [nested_slots]
    exact (hnode.drop (count_slot?_le _)).append hn.ordered hrest
  | .reference r :: cs => by
    have hgiven : Transfer s.arena [] s.arena
        ((given? (s.registry.resolve r.id r.location)).bind Object.slot?).toList := by
      apply Transfer.of_named
      intro x hx
      exact ⟨r.id, given?_named hs r (Option.mem_toList.mp hx)⟩
    obtain ⟨hcs, hrest⟩ := buildChildren_sound (lookedUp_sound hs r) cs
    rw [lookedUp_arena] at hrest
    rw [buildChildren_reference]
    refine ⟨hcs, ?_⟩
    rw [reference_slots]
    exact hgiven.append hs.ordered hrest

end

/-! ## A run -/

/-- The slots that the objects of roots use. -/
def rootSlots (roots : List Root) : List Slot := roots.flatMap (·.object.slots)

theorem buildAll_sound (ns : List Node) : ∀ {s : State}, Sound s → Sound (buildAll s ns).2 ∧
    Transfer s.arena [] (buildAll s ns).2.arena (rootSlots (buildAll s ns).1) := by
  induction ns with
  | nil =>
    intro s hs
    exact ⟨hs, Transfer.refl fun x hx => by cases hx⟩
  | cons n ns ih =>
    intro s hs
    obtain ⟨hn, hnode⟩ := build_sound hs n
    obtain ⟨hns, hrest⟩ := ih hn
    have hslots : rootSlots (buildAll s (n :: ns)).1 =
        (build s n).1.slots ++ rootSlots (buildAll (build s n).2 ns).1 := by
      rw [buildAll_cons, rootSlots, List.flatMap_append]
      cases (build s n).1 with
      | built o => simp [Outcome.object?, Outcome.slots, rootSlots]
      | failed => rfl
      | aborted => rfl
    rw [hslots]
    exact ⟨hns, hnode.append hn.ordered hrest⟩

theorem initial_sound (forest : List Node) : Sound (initial forest) where
  ordered := by
    intro i e he
    cases he
  known := by
    intro e he o ho
    rw [pending_of_mem_declared he] at ho
    cases ho

/-- At the end of a run every slot in use is filled, every bsdf uses only bsdfs before it, and
a slot without an id has one user at most. -/
theorem run_owned (forest : List Node) :
    (run forest).1.arena.Ordered ∧
      (∀ x ∈ rootSlots (run forest).1.roots, (run forest).1.arena.id? x ≠ none) ∧
      ∀ x, (run forest).1.arena.id? x = some none →
        (run forest).1.arena.uses.count x + (rootSlots (run forest).1.roots).count x ≤ 1 := by
  obtain ⟨hsound, htransfer⟩ := buildAll_sound forest (initial_sound forest)
  rw [run_eq]
  refine ⟨hsound.ordered, htransfer.held, fun x hx => ?_⟩
  have hstart : (initial forest).arena.id? x = none := by
    cases x <;> rfl
  have howned := htransfer.owned x hx
  rw [if_pos hstart] at howned
  exact howned

end Instantiation

end SceneGraph
