import Mathlib.Data.List.Induction
import Mathlib.Data.List.Nodup
import SceneGraph.Proofs.Declaration
import SceneGraph.Proofs.MeshSharing

/-!
# Which shapes call the loader

A loader may answer one request now with a fault and then with a mesh.  Whatever it answers, the
shapes of a scene ask in order; a shape calls the loader unless a call that shares with its request
has given a mesh before, and then it uses that mesh.  So a run is told by its turns, each a shape with the
answer to its call or with none (`loadAll_told`).

    the effect of one turn     share_tells, answer_tells
    all turns of a scene       serve_tells
    the result                 Tells.ends
-/

namespace SceneGraph.Mesh

/-- A call of a loader and its answer. -/
structure Call where
  request : Request
  answer : Except Fault Mesh

/-- The loader that also writes its calls down. -/
def recording {σ : Type} (loader : Request → StateM σ (Except Fault Mesh)) (r : Request) :
    StateM (σ × List Call) (Except Fault Mesh) := fun (s, calls) =>
  let (answer, s) := loader r s
  (answer, (s, calls ++ [⟨r, answer⟩]))

/-- A shape in its turn, with the answer of the loader if the shape calls it. -/
structure Turn where
  asker : Asker
  answer? : Option (Except Fault Mesh)

namespace Turn

def key (t : Turn) : List File.Component × Bool := t.asker.request.key

def call? (t : Turn) : Option Call := t.answer?.map (⟨t.asker.request, ·⟩)

def problem? (t : Turn) : Option Problem :=
  t.answer?.bind fun answer => Mesh.problem? (t.asker, answer)

/-- The mesh that a turn's call gives, with the key. -/
def loaded? (t : Turn) : Option ((List File.Component × Bool) × Mesh) :=
  match t.answer? with
  | some (.ok mesh) => some (t.key, mesh)
  | some (.error _) => none
  | none => none

def failed (t : Turn) : Bool :=
  match t.answer? with
  | some (.error _) => true
  | some (.ok _) => false
  | none => false

end Turn

/-- What the calls of some turns give. -/
def loads (turns : List Turn) : List ((List File.Component × Bool) × Mesh) :=
  turns.filterMap Turn.loaded?

/-- A turn makes no call exactly if a call that shares with it has given a mesh before. -/
def Thrifty (turns : List Turn) : Prop :=
  ∀ before t after, turns = before ++ t :: after →
    (t.answer? = none ↔ ∃ u ∈ before, u.asker.request.SharesWith t.asker.request ∧
      ∃ mesh, u.answer? = some (.ok mesh))

/-- The place of the mesh that a shape uses. -/
def Table.place? (t : Table) (shape : Nat) : Option Nat := (t.uses.find? (·.1 = shape)).map (·.2)

/-- A result that says how the turns went.  Without a failed call it is a table: of the shapes that
had a turn, each with the mesh that a call sharing with it gave, two shapes with one mesh if their
requests share, and only then.  Otherwise it is a problem for each failed call. -/
def Ends (turns : List Turn) : Except (List Problem) Table → Prop
  | .ok table =>
    (∀ t ∈ turns, t.failed = false) ∧
      table.uses.map (·.1) = turns.map (·.asker.place) ∧
      (∀ t ∈ turns, ∃ u ∈ turns, u.asker.request.SharesWith t.asker.request ∧
        ∃ mesh, u.answer? = some (.ok mesh) ∧ table.mesh? t.asker.place = some mesh) ∧
      ∀ t ∈ turns, ∀ u ∈ turns,
        table.place? t.asker.place = table.place? u.asker.place ↔
          t.asker.request.SharesWith u.asker.request
  | .error problems =>
    problems = turns.filterMap Turn.problem? ∧ ∃ t ∈ turns, t.failed = true

/-- A table under construction that says how the turns went. -/
structure Tells (turns : List Turn) (l : Loading) : Prop where
  thrifty : Thrifty turns
  distinct : ((loads turns).map (·.1)).Nodup
  known : l.known = ((loads turns).map (·.1)).zipIdx
  meshes : l.table.meshes = (loads turns).map (·.2)
  uses : List.Forall₂
    (fun t u => u.1 = t.asker.place ∧ ((loads turns).map (·.1))[u.2]? = some t.key)
    (turns.filter (!·.failed)) l.table.uses
  problems : l.problems = turns.filterMap Turn.problem?

/-! ## Lemmas -/

theorem Turn.key_eq_iff {t u : Turn} :
    t.key = u.key ↔ t.asker.request.SharesWith u.asker.request := Request.key_eq_iff

theorem thrifty_concat {turns : List Turn} {t : Turn} (h : Thrifty turns)
    (ht : t.answer? = none ↔ ∃ u ∈ turns, u.key = t.key ∧ ∃ mesh, u.answer? = some (.ok mesh)) :
    Thrifty (turns ++ [t]) := by
  simp only [Turn.key_eq_iff] at ht
  intro before u after hsplit
  obtain ⟨rfl, rfl, -⟩ | ⟨rest, rfl, -⟩ := split_of_concat hsplit
  · exact ht
  · exact h before u rest rfl

theorem loaded?_eq_some_iff {t : Turn} {key : List File.Component × Bool} {mesh : Mesh} :
    t.loaded? = some (key, mesh) ↔ t.key = key ∧ t.answer? = some (.ok mesh) := by
  unfold Turn.loaded?
  split <;> simp_all

theorem mem_loads_iff {turns : List Turn} {key : List File.Component × Bool} {mesh : Mesh} :
    (key, mesh) ∈ loads turns ↔ ∃ u ∈ turns, u.key = key ∧ u.answer? = some (.ok mesh) := by
  simp only [loads, List.mem_filterMap, loaded?_eq_some_iff]

theorem mem_keys_iff {turns : List Turn} {key : List File.Component × Bool} :
    key ∈ (loads turns).map (·.1) ↔
      ∃ u ∈ turns, u.key = key ∧ ∃ mesh, u.answer? = some (.ok mesh) := by
  constructor
  · intro h
    obtain ⟨⟨k, mesh⟩, hload, rfl⟩ := List.mem_map.mp h
    obtain ⟨u, hu, hkey, hanswer⟩ := mem_loads_iff.mp hload
    exact ⟨u, hu, hkey, mesh, hanswer⟩
  · rintro ⟨u, hu, hkey, mesh, hanswer⟩
    exact List.mem_map_of_mem (mem_loads_iff.mpr ⟨u, hu, hkey, hanswer⟩)

theorem loads_concat (turns : List Turn) (t : Turn) :
    loads (turns ++ [t]) = loads turns ++ t.loaded?.toList := by
  rw [loads, List.filterMap_append]
  cases h : t.loaded? <;> simp [h, loads]

theorem loads_of_none {t : Turn} (h : t.loaded? = none) (turns : List Turn) :
    loads (turns ++ [t]) = loads turns := by
  rw [loads_concat, h]
  exact List.append_nil _

/-- Each key that has a mesh keeps its place. -/
theorem getElem?_loads {turns : List Turn} {i : Nat} {key : List File.Component × Bool}
    (h : ((loads turns).map (·.1))[i]? = some key) (t : Turn) :
    ((loads (turns ++ [t])).map (·.1))[i]? = some key := by
  obtain ⟨hi, -⟩ := List.getElem?_eq_some_iff.mp h
  rw [loads_concat, List.map_append, List.getElem?_append_left hi, h]

section

variable {turns : List Turn} {l : Loading}

theorem Tells.start : Tells [] .start where
  thrifty := fun before t after h => by simp at h
  distinct := List.nodup_nil
  known := rfl
  meshes := rfl
  uses := .nil
  problems := rfl

theorem Tells.find?_eq_some (h : Tells turns l) {key : List File.Component × Bool}
    {e : (List File.Component × Bool) × Nat} (hfind : l.known.find? (·.1 = key) = some e) :
    ((loads turns).map (·.1))[e.2]? = some key := by
  have hmem := List.mem_of_find?_eq_some hfind
  have hkey : e.1 = key := by simpa using List.find?_some hfind
  rw [h.known, List.mem_zipIdx_iff_getElem?, hkey] at hmem
  exact hmem

theorem Tells.find?_eq_none (h : Tells turns l) {key : List File.Component × Bool}
    (hfind : l.known.find? (·.1 = key) = none) : key ∉ (loads turns).map (·.1) := by
  intro hkey
  obtain ⟨i, hi⟩ := List.mem_iff_getElem?.mp hkey
  have hmem : (key, i) ∈ l.known := by
    rw [h.known, List.mem_zipIdx_iff_getElem?]
    exact hi
  simpa using List.find?_eq_none.mp hfind _ hmem

/-- The uses before a turn are those behind it. -/
theorem Tells.uses_concat (h : Tells turns l) (t : Turn) :
    List.Forall₂
      (fun u use => use.1 = u.asker.place ∧
        ((loads (turns ++ [t])).map (·.1))[use.2]? = some u.key)
      (turns.filter (!·.failed)) l.table.uses :=
  h.uses.imp fun _ _ hu => ⟨hu.1, getElem?_loads hu.2 t⟩

/-- A shape whose key is known makes no call. -/
theorem share_tells (h : Tells turns l) (a : Asker) {e : (List File.Component × Bool) × Nat}
    (hfind : l.known.find? (·.1 = a.request.key) = some e) :
    Tells (turns ++ [⟨a, none⟩]) (l.share a.place e.2) := by
  have hplace := h.find?_eq_some hfind
  have hloads : loads (turns ++ [⟨a, none⟩]) = loads turns := loads_of_none rfl turns
  constructor
  · refine thrifty_concat h.thrifty ⟨fun _ => ?_, fun _ => rfl⟩
    exact mem_keys_iff.mp (List.mem_of_getElem? hplace)
  · rw [hloads]
    exact h.distinct
  · rw [hloads]
    exact h.known
  · rw [hloads]
    exact h.meshes
  · rw [List.filter_append]
    exact List.rel_append (h.uses_concat _) (.cons ⟨rfl, getElem?_loads hplace _⟩ .nil)
  · rw [List.filterMap_append, ← h.problems]
    exact (List.append_nil _).symm

/-- A shape whose key is not known calls the loader. -/
theorem answer_tells (h : Tells turns l) (a : Asker)
    (hfind : l.known.find? (·.1 = a.request.key) = none) (answer : Except Fault Mesh) :
    Tells (turns ++ [⟨a, some answer⟩]) (l.answer a.place a.location a.request answer) := by
  have hnew := h.find?_eq_none hfind
  have hthrifty : Thrifty (turns ++ [⟨a, some answer⟩]) := by
    refine thrifty_concat h.thrifty ⟨fun hcall => ?_, fun hbefore => ?_⟩
    · cases hcall
    · exact absurd (mem_keys_iff.mpr hbefore) hnew
  cases answer with
  | error fault =>
    have hloads : loads (turns ++ [⟨a, some (.error fault)⟩]) = loads turns :=
      loads_of_none rfl turns
    constructor
    · exact hthrifty
    · rw [hloads]
      exact h.distinct
    · rw [hloads]
      exact h.known
    · rw [hloads]
      exact h.meshes
    · have hfilter : (turns ++ [(⟨a, some (.error fault)⟩ : Turn)]).filter (!·.failed) =
          turns.filter (!·.failed) := by
        rw [List.filter_append]
        exact List.append_nil _
      rw [hfilter]
      exact h.uses_concat _
    · rw [List.filterMap_append, ← h.problems]
      rfl
  | ok mesh =>
    have hloads : loads (turns ++ [⟨a, some (.ok mesh)⟩]) =
        loads turns ++ [(a.request.key, mesh)] := loads_concat _ _
    have hlength : l.table.meshes.length = ((loads turns).map (·.1)).length := by
      rw [h.meshes, List.length_map, List.length_map]
    constructor
    · exact hthrifty
    · rw [hloads, List.map_append]
      have hkeys := h.distinct.concat hnew
      rw [List.concat_eq_append] at hkeys
      exact hkeys
    · -- the new mesh takes the place that its key has among the keys
      rw [hloads, List.map_append, List.zipIdx_append, ← h.known, Nat.zero_add, ← hlength]
      rfl
    · rw [hloads, List.map_append, ← h.meshes]
      rfl
    · rw [List.filter_append]
      refine List.rel_append (h.uses_concat _) (.cons ⟨rfl, ?_⟩ .nil)
      rw [hloads, List.map_append, hlength]
      exact List.getElem?_concat_length
    · rw [List.filterMap_append, ← h.problems]
      exact (List.append_nil _).symm

end

/-! ## All turns -/

/-- Behind the turns that were, the shapes have theirs, and the calls are those of the turns. -/
theorem serve_tells {σ : Type} (loader : Request → StateM σ (Except Fault Mesh)) (base : String)
    (shapes : List (Nat × Shape)) : ∀ {turns l} (s : σ) (calls : List Call), Tells turns l →
      ∃ more : List Turn, more.map (·.asker) = askers base shapes ∧
        ∃ l' s', Tells (turns ++ more) l' ∧
          serve loader base l shapes s = (l', s') ∧
          serve (recording loader) base l shapes (s, calls) =
            (l', (s', calls ++ more.filterMap Turn.call?)) := by
  induction shapes with
  | nil =>
    intro turns l s calls h
    refine ⟨[], rfl, l, s, ?_, rfl, ?_⟩
    · rw [List.append_nil]
      exact h
    · rw [List.filterMap_nil, List.append_nil]
      rfl
  | cons head rest ih =>
    intro turns l s calls h
    obtain ⟨i, shape⟩ := head
    unfold serve
    cases hrequest : request? base shape with
    | none =>
      rw [askers_of_none hrequest]
      exact ih s calls h
    | some r =>
      rw [askers_of_some hrequest]
      cases hfind : l.known.find? (·.1 = r.key) with
      | some e =>
        obtain ⟨more, hmore, l', s', htells, hrun, hcalls⟩ :=
          ih s calls (share_tells h ⟨i, shape.location, r⟩ hfind)
        refine ⟨⟨⟨i, shape.location, r⟩, none⟩ :: more, ?_, l', s', ?_, ?_, ?_⟩
        · rw [List.map_cons, hmore]
        · rw [List.append_cons]
          exact htells
        · dsimp only
          rw [hfind]
          exact hrun
        · dsimp only
          rw [hfind]
          exact hcalls
      | none =>
        -- both loaders answer the same, and only one of them writes it down
        obtain ⟨more, hmore, l', s', htells, hrun, hcalls⟩ :=
          ih (loader r s).2 (calls ++ [⟨r, (loader r s).1⟩])
            (answer_tells h ⟨i, shape.location, r⟩ hfind (loader r s).1)
        refine ⟨⟨⟨i, shape.location, r⟩, some (loader r s).1⟩ :: more, ?_, l', s', ?_, ?_, ?_⟩
        · rw [List.map_cons, hmore]
        · rw [List.append_cons]
          exact htells
        · dsimp only
          rw [hfind]
          exact hrun
        · dsimp only
          rw [hfind]
          rw [List.append_assoc] at hcalls
          exact hcalls

/-! ## The result -/

theorem problem?_isSome (t : Turn) : t.problem?.isSome = t.failed := by
  unfold Turn.problem? Turn.failed
  split <;> simp_all [Mesh.problem?]

/-- There are no problems exactly if no call failed. -/
theorem no_problems_iff {turns : List Turn} :
    turns.filterMap Turn.problem? = [] ↔ ∀ t ∈ turns, t.failed = false := by
  rw [List.filterMap_eq_nil_iff]
  refine forall₂_congr fun t _ => ?_
  rw [← problem?_isSome, Option.isSome_eq_false_iff, Option.isNone_iff_eq_none]

theorem Table.mesh?_eq_place? (t : Table) (shape : Nat) :
    t.mesh? shape = (t.place? shape).bind (t.meshes[·]?) := by
  unfold mesh? place?
  cases t.uses.find? (·.1 = shape) <;> rfl

section

variable {turns : List Turn} {l : Loading}

/-- The shape of a turn uses the mesh at the place of its key. -/
theorem Tells.place? (h : Tells turns l) (hnodup : (turns.map (·.asker.place)).Nodup)
    {t : Turn} (ht : t ∈ turns) (hkept : t.failed = false) :
    ∃ i, l.table.place? t.asker.place = some i ∧ ((loads turns).map (·.1))[i]? = some t.key := by
  have hkeptTurn : t ∈ turns.filter (!·.failed) := List.mem_filter.mpr ⟨ht, by rw [hkept]; rfl⟩
  obtain ⟨use, huse, hplace, -⟩ := exists_of_forall₂ h.uses.flip t hkeptTurn
  cases hfind : l.table.uses.find? (·.1 = t.asker.place) with
  | none => exact absurd hplace (by simpa using List.find?_eq_none.mp hfind use huse)
  | some e =>
    have he : e.1 = t.asker.place := by simpa using List.find?_some hfind
    obtain ⟨u, hu, huplace, hukey⟩ :=
      exists_of_forall₂ h.uses e (List.mem_of_find?_eq_some hfind)
    obtain rfl : u = t :=
      List.inj_on_of_nodup_map hnodup (List.mem_of_mem_filter hu) ht (huplace.symm.trans he)
    exact ⟨e.2, by rw [Table.place?, hfind]; rfl, hukey⟩

theorem Tells.ends (h : Tells turns l) (hnodup : (turns.map (·.asker.place)).Nodup) :
    Ends turns (if l.problems.isEmpty then .ok l.table else .error l.problems) := by
  cases hproblems : l.problems.isEmpty with
  | false =>
    rw [if_neg Bool.false_ne_true]
    refine ⟨h.problems, ?_⟩
    by_contra hnone
    have hkept : ∀ t ∈ turns, t.failed = false := fun t ht => by
      cases hfailed : t.failed with
      | false => rfl
      | true => exact absurd ⟨t, ht, hfailed⟩ hnone
    rw [h.problems, no_problems_iff.mpr hkept] at hproblems
    cases hproblems
  | true =>
    rw [if_pos rfl]
    have hkept : ∀ t ∈ turns, t.failed = false := by
      rw [← no_problems_iff, ← h.problems]
      exact List.isEmpty_iff.mp hproblems
    have huses := h.uses
    rw [List.filter_eq_self.mpr fun t ht => by rw [hkept t ht]; rfl] at huses
    refine ⟨hkept, ?_, fun t ht => ?_, fun t ht u hu => ?_⟩
    · rw [← List.forall₂_eq_eq_eq, List.forall₂_map_left_iff, List.forall₂_map_right_iff]
      exact (huses.imp fun _ _ hu => hu.1).flip
    · obtain ⟨i, hi, hkey⟩ := h.place? hnodup ht (hkept t ht)
      rw [List.getElem?_map] at hkey
      obtain ⟨⟨key, mesh⟩, hload, rfl⟩ := Option.map_eq_some_iff.mp hkey
      obtain ⟨u, hu, hukey, hanswer⟩ := mem_loads_iff.mp (List.mem_of_getElem? hload)
      refine ⟨u, hu, Turn.key_eq_iff.mp hukey, mesh, hanswer, ?_⟩
      rw [Table.mesh?_eq_place?, hi, Option.bind_some, h.meshes, List.getElem?_map, hload]
      rfl
    · obtain ⟨i, hi, hikey⟩ := h.place? hnodup ht (hkept t ht)
      obtain ⟨j, hj, hjkey⟩ := h.place? hnodup hu (hkept u hu)
      rw [hi, hj, Option.some_inj, ← Turn.key_eq_iff]
      constructor
      · rintro rfl
        exact Option.some.inj (hikey.symm.trans hjkey)
      · intro hkeys
        refine (List.getElem?_inj (List.getElem?_eq_some_iff.mp hikey).1 h.distinct).mp ?_
        rw [hikey, hjkey, hkeys]

end

/-! ## Top theorem -/

theorem Thrifty.pairwise {turns : List Turn} (h : Thrifty turns) :
    turns.Pairwise fun t u => t.asker.request.SharesWith u.asker.request →
      (∃ mesh, t.answer? = some (.ok mesh)) → u.answer? = none := by
  induction turns using List.reverseRecOn with
  | nil => exact List.Pairwise.nil
  | append_singleton turns u ih =>
    rw [List.pairwise_append]
    refine ⟨ih ?_, List.pairwise_singleton _ _, fun t ht v hv hshares hmesh => ?_⟩
    · intro before t after hsplit
      exact h before t (after ++ [u]) (by rw [hsplit, List.append_assoc, List.cons_append])
    · obtain rfl := List.mem_singleton.mp hv
      exact (h turns v [] rfl).mpr ⟨t, ht, hshares, hmesh⟩

/-- Behind a call that gave a mesh there is none that shares with it. -/
theorem Thrifty.calls {turns : List Turn} (h : Thrifty turns) :
    (turns.filterMap Turn.call?).Pairwise fun c d =>
      c.request.SharesWith d.request → ∃ fault, c.answer = .error fault := by
  rw [List.pairwise_filterMap]
  refine h.pairwise.imp fun {t u} htu c hc d hd hshares => ?_
  obtain ⟨answer, hanswer, rfl⟩ := Option.map_eq_some_iff.mp hc
  obtain ⟨later, hlater, rfl⟩ := Option.map_eq_some_iff.mp hd
  cases answer with
  | error fault => exact ⟨fault, rfl⟩
  | ok mesh =>
    rw [htu hshares ⟨mesh, hanswer⟩] at hlater
    cases hlater

theorem loadAll_of_serve {σ : Type} {loader : Request → StateM σ (Except Fault Mesh)}
    {base : String} {scene : Scene} {s s' : σ} {l : Loading}
    (h : serve loader base Loading.start scene.meshShapes s = (l, s')) :
    loadAll loader base scene s =
      (if l.problems.isEmpty then .ok l.table else .error l.problems, s') := by
  simp only [loadAll, bind, StateT.bind, h]
  rfl

/-- **Loading calls, shares and reports precisely.**  The shapes with a mesh file have their turns
in order, whatever the loader answers and however its answers change.  A shape makes no call
exactly if an earlier call for the same place and the same shading has given a mesh; so what has
given a mesh is not asked for again, and what has given a fault is.  Without a failed call the
result is a table of all these shapes, in which two shapes have the same mesh exactly if they ask
for the same place with the same shading; otherwise it is a problem for each failed call, in the
order of the calls. -/
theorem loadAll_told {σ : Type} (loader : Request → StateM σ (Except Fault Mesh)) (base : String)
    (scene : Scene) (s : σ) :
    ∃ (turns : List Turn) (result : Except (List Problem) Table) (s' : σ),
      loadAll loader base scene s = (result, s') ∧
      loadAll (recording loader) base scene (s, []) =
        (result, (s', turns.filterMap Turn.call?)) ∧
      turns.map (·.asker) = askers base scene.meshShapes ∧
      turns.map (·.asker.place) = scene.meshShapes.map (·.1) ∧
      Thrifty turns ∧
      (turns.filterMap Turn.call?).Pairwise (fun c d =>
        c.request.SharesWith d.request → ∃ fault, c.answer = .error fault) ∧
      Ends turns result := by
  obtain ⟨turns, hturns, l, s', htells, hrun, hcalls⟩ :=
    serve_tells loader base scene.meshShapes s [] Tells.start
  rw [List.nil_append] at htells hcalls
  have hplaces : turns.map (·.asker.place) = scene.meshShapes.map (·.1) := by
    rw [← askers_place base, ← hturns, List.map_map]
    rfl
  refine ⟨turns, _, s', loadAll_of_serve hrun, loadAll_of_serve hcalls, hturns, hplaces,
    htells.thrifty, htells.thrifty.calls, htells.ends ?_⟩
  rw [hplaces]
  exact meshShapes_nodup scene

/-- A loader that fails once and has a mesh from then on is called twice for three shapes. -/
example :
    (loadAll (recording fun _ n =>
        (if n = 0 then .error (.unsupported "obj") else .ok ⟨#[], [], none⟩, n + 1)) ""
      (onOneFile [.obj, .obj, .obj]) (0, [])).2.1 = 2 := by
  rfl

end SceneGraph.Mesh
