import Mathlib.Data.List.Nodup
import SceneGraph.Mesh.Table

/-!
# Which mesh a shape gets

The place that a request names and its shading decide which requests share a mesh
(`Request.SharesWith`); the format does not.  So a shape gets the mesh of the first request that
shares with its own and for which the loader has one, its own request being the last that counts,
and the fault of its own request if there is none (`loadAll_shares`).  That is what the loader
would say to the shape itself as long as requests that share agree on their format, and not in
general (`not_loadAll_own`).

* `Serves` ties a table under construction to the requests before.
* `share_serves` and `answer_serves` are the two steps, `serve_serves` is a whole run.
-/

namespace SceneGraph.Mesh

/-- The requests name the same place, with the same shading. -/
def Request.SharesWith (r r' : Request) : Prop :=
  File.Path.components r.path = File.Path.components r'.path ∧ r.faceNormals = r'.faceNormals

instance (r r' : Request) : Decidable (r.SharesWith r') := inferInstanceAs (Decidable (_ ∧ _))

/-- A shape that asks for a mesh. -/
structure Asker where
  place : Nat
  location : Location
  request : Request

/-- What the shapes of a list ask for, with their places. -/
def askers (base : String) (shapes : List (Nat × Shape)) : List Asker :=
  shapes.filterMap fun (i, s) => (request? base s).map (⟨i, s.location, ·⟩)

/-- The mesh of the first request that shares with `r` and for which the loader has one. -/
def shared? (load : Request → Except Fault Mesh) (before : List Asker) (r : Request) :
    Option Mesh :=
  (before.filter (·.request.SharesWith r)).findSome? fun a => (load a.request).toOption

/-- The answer to a shape behind others. -/
def reply (load : Request → Except Fault Mesh) (before : List Asker) (a : Asker) :
    Except Fault Mesh :=
  match shared? load before a.request with
  | some mesh => .ok mesh
  | none => load a.request

/-- The answers to shapes in order. -/
def replies (load : Request → Except Fault Mesh) (before : List Asker) :
    List Asker → List (Asker × Except Fault Mesh)
  | [] => []
  | a :: rest => (a, reply load before a) :: replies load (before ++ [a]) rest

/-- The answers to shapes that share nothing. -/
def ownReplies (load : Request → Except Fault Mesh) (as : List Asker) :
    List (Asker × Except Fault Mesh) :=
  as.map fun a => (a, load a.request)

def problem? : Asker × Except Fault Mesh → Option Problem
  | (a, .error fault) => some (.meshNotLoaded a.request.path a.location fault)
  | (_, .ok _) => none

def entry? : Asker × Except Fault Mesh → Option (Nat × Mesh)
  | (a, .ok mesh) => some (a.place, mesh)
  | (_, .error _) => none

/-- A result that says what was answered: a table with the meshes if all answers are meshes,
and otherwise a problem for each answer that is a fault. -/
def Reports (told : List (Asker × Except Fault Mesh)) : Except (List Problem) Table → Prop
  | .ok t =>
    (∀ r ∈ told, ∃ mesh, r.2 = .ok mesh) ∧
      ∀ i mesh, t.mesh? i = some mesh ↔ ∃ a, (a, .ok mesh) ∈ told ∧ a.place = i
  | .error problems => problems ≠ [] ∧ problems = told.filterMap problem?

/-- A loader that depends on the place a path names, and not on how the path is written. -/
def RespectsPaths (load : Request → Except Fault Mesh) : Prop :=
  ∀ r r', r.SharesWith r' → r.format = r'.format → load r = load r'

/-- The code's keys say which requests share. -/
theorem Request.key_eq_iff {r r' : Request} : r.key = r'.key ↔ r.SharesWith r' := Prod.ext_iff

/-! ## Tables -/

namespace Table

/-- Every use is of a mesh that is there. -/
def Valid (t : Table) : Prop := ∀ u ∈ t.uses, u.2 < t.meshes.length

theorem mesh?_eq_find? {t : Table} (ht : t.Valid) (i : Nat) :
    t.mesh? i = (t.entries.find? (·.1 = i)).map (·.2) := by
  obtain ⟨meshes, uses⟩ := t
  simp only [Valid, mesh?, entries] at ht ⊢
  induction uses with
  | nil => rfl
  | cons u uses ih =>
    obtain ⟨shape, place⟩ := u
    have hplace : place < meshes.length := ht _ List.mem_cons_self
    have ih := ih fun u hu => ht u (List.mem_cons_of_mem _ hu)
    by_cases hi : shape = i
    · simp [hi, hplace]
    · simpa [hi, hplace] using ih

/-- A table in which no shape has two entries gives each shape its entry. -/
theorem mesh?_eq_some_iff {t : Table} (ht : t.Valid) (hnodup : (t.entries.map (·.1)).Nodup)
    {i : Nat} {mesh : Mesh} : t.mesh? i = some mesh ↔ (i, mesh) ∈ t.entries := by
  rw [mesh?_eq_find? ht]
  constructor
  · intro h
    obtain ⟨e, he, rfl⟩ := Option.map_eq_some_iff.mp h
    have hi : e.1 = i := by simpa using List.find?_some he
    rw [← hi]
    exact List.mem_of_find?_eq_some he
  · intro h
    cases hfind : t.entries.find? (·.1 = i) with
    | none => simpa using List.find?_eq_none.mp hfind _ h
    | some e =>
      have hi : e.1 = i := by simpa using List.find?_some hfind
      have he : e = (i, mesh) :=
        List.inj_on_of_nodup_map hnodup (List.mem_of_find?_eq_some hfind) h hi
      rw [he]
      rfl

theorem valid_mesh {t : Table} (ht : t.Valid) (mesh : Mesh) :
    Valid ⟨t.meshes ++ [mesh], t.uses⟩ := by
  intro u hu
  rw [List.length_append]
  exact Nat.lt_add_right _ (ht u hu)

theorem valid_use {t : Table} (ht : t.Valid) (shape : Nat) {i : Nat} (hi : i < t.meshes.length) :
    Valid { t with uses := t.uses ++ [(shape, i)] } := by
  intro u hu
  rcases List.mem_append.mp hu with hu | hu
  · exact ht u hu
  · obtain rfl := List.mem_singleton.mp hu
    exact hi

/-- What stands behind the meshes of a table changes none of its entries. -/
theorem entries_mesh {t : Table} (ht : t.Valid) (mesh : Mesh) :
    entries ⟨t.meshes ++ [mesh], t.uses⟩ = t.entries := by
  refine List.filterMap_congr fun u hu => ?_
  show ((t.meshes ++ [mesh])[u.2]?).map (u.1, ·) = (t.meshes[u.2]?).map (u.1, ·)
  rw [List.getElem?_append_left (ht u hu)]

theorem entries_use (t : Table) (shape : Nat) {i : Nat} {mesh : Mesh}
    (hi : t.meshes[i]? = some mesh) :
    entries { t with uses := t.uses ++ [(shape, i)] } = t.entries ++ [(shape, mesh)] := by
  simp [entries, hi]

end Table

/-! ## One request -/

section

variable {load : Request → Except Fault Mesh} {before : List Asker} {a : Asker}

theorem shared?_append (r : Request) :
    shared? load (before ++ [a]) r =
      (shared? load before r).or
        (if a.request.SharesWith r then (load a.request).toOption else none) := by
  unfold shared?
  rw [List.filter_append, List.findSome?_append]
  by_cases hshares : a.request.SharesWith r
  · simp [hshares]
  · simp [hshares]

/-- A shape gets its own answer where the loader says the same to all requests that share. -/
theorem reply_eq_own (h : ∀ b ∈ before, b.request.SharesWith a.request →
    load b.request = load a.request) : reply load before a = load a.request := by
  unfold reply
  cases hshared : shared? load before a.request with
  | none => rfl
  | some mesh =>
    obtain ⟨b, hb, hmesh⟩ := List.exists_of_findSome?_eq_some hshared
    obtain ⟨hb, hshares⟩ := List.mem_filter.mp hb
    rw [← h b hb (of_decide_eq_true hshares)]
    cases hload : load b.request with
    | error fault =>
      rw [hload] at hmesh
      cases hmesh
    | ok m =>
      rw [hload] at hmesh
      rw [Option.some.inj hmesh]

theorem replies_fst (as : List Asker) : ∀ before, (replies load before as).map (·.1) = as := by
  induction as with
  | nil =>
    intro before
    rfl
  | cons a as ih =>
    intro before
    rw [replies, List.map_cons, ih]

theorem replies_eq_own (as : List Asker) : ∀ before,
    (∀ b ∈ before ++ as, ∀ a ∈ as, b.request.SharesWith a.request →
      load b.request = load a.request) →
    replies load before as = ownReplies load as := by
  induction as with
  | nil =>
    intro before _
    rfl
  | cons a as ih =>
    intro before h
    have hreply : reply load before a = load a.request :=
      reply_eq_own fun b hb => h b (List.mem_append_left _ hb) a List.mem_cons_self
    have hrest : replies load (before ++ [a]) as = ownReplies load as := by
      apply ih
      intro b hb c hc
      rw [List.append_assoc, List.singleton_append] at hb
      exact h b hb c (List.mem_cons_of_mem _ hc)
    rw [replies, hreply, hrest]
    rfl

end

/-- A table under construction that holds what the requests `before` were answered. -/
structure Serves (load : Request → Except Fault Mesh) (before : List Asker)
    (told : List (Asker × Except Fault Mesh)) (l : Loading) : Prop where
  known : ∀ r : Request, ((l.known.find? (·.1 = r.key)).bind fun e => l.table.meshes[e.2]?) =
    shared? load before r
  place : ∀ e ∈ l.known, e.2 < l.table.meshes.length
  valid : l.table.Valid
  entries : l.table.entries = told.filterMap entry?
  problems : l.problems = told.filterMap problem?

section

variable {load : Request → Except Fault Mesh} {before : List Asker}
  {told : List (Asker × Except Fault Mesh)} {l : Loading}

theorem start_serves : Serves load [] [] .start where
  known := fun _ => rfl
  place := fun e he => by cases he
  valid := fun u hu => by cases hu
  entries := rfl
  problems := rfl

/-- A request whose key is known is answered by the mesh at its place. -/
theorem share_serves (h : Serves load before told l) (a : Asker)
    {key : List File.Component × Bool} {place : Nat}
    (hfind : l.known.find? (·.1 = a.request.key) = some (key, place)) :
    Serves load (before ++ [a]) (told ++ [(a, reply load before a)]) (l.share a.place place) := by
  have hplace : place < l.table.meshes.length := h.place _ (List.mem_of_find?_eq_some hfind)
  have hshared : shared? load before a.request = some l.table.meshes[place] := by
    rw [← h.known, hfind]
    exact List.getElem?_eq_getElem hplace
  have hreply : reply load before a = .ok l.table.meshes[place] := by rw [reply, hshared]
  constructor
  · intro r
    have hsame : shared? load (before ++ [a]) r = shared? load before r := by
      rw [shared?_append]
      by_cases hr : a.request.SharesWith r
      · rw [← h.known, ← Request.key_eq_iff.mpr hr, h.known, hshared, Option.some_or]
      · rw [if_neg hr, Option.or_none]
    rw [hsame]
    exact h.known r
  · exact h.place
  · exact Table.valid_use h.valid a.place hplace
  · rw [List.filterMap_append, ← h.entries, hreply]
    exact Table.entries_use l.table a.place (List.getElem?_eq_getElem hplace)
  · rw [List.filterMap_append, ← h.problems, hreply]
    simp [Loading.share, problem?]

/-- A request whose key is not known goes to the loader. -/
theorem answer_serves (h : Serves load before told l) (a : Asker)
    (hfind : l.known.find? (·.1 = a.request.key) = none) :
    Serves load (before ++ [a]) (told ++ [(a, reply load before a)])
      (l.answer a.place a.location a.request (load a.request)) := by
  have hshared : shared? load before a.request = none := by
    rw [← h.known, hfind]
    rfl
  have hreply : reply load before a = load a.request := by rw [reply, hshared]
  rw [hreply]
  cases hload : load a.request with
  | error fault =>
    constructor
    · intro r
      rw [shared?_append, hload, ← h.known r]
      simp [Loading.answer, Except.toOption]
    · exact h.place
    · exact h.valid
    · rw [List.filterMap_append, ← h.entries]
      simp [Loading.answer, entry?]
    · rw [List.filterMap_append, ← h.problems]
      simp [Loading.answer, problem?]
  | ok mesh =>
    have hnew : l.table.meshes.length < (l.table.meshes ++ [mesh]).length := by
      rw [List.length_append]
      exact Nat.lt_add_one _
    have hmesh : (l.table.meshes ++ [mesh])[l.table.meshes.length]? = some mesh := by simp
    constructor
    · intro r
      rw [shared?_append, hload, ← h.known r]
      show ((l.known ++ [(a.request.key, l.table.meshes.length)]).find? (·.1 = r.key)).bind
        (fun e => (l.table.meshes ++ [mesh])[e.2]?) = _
      rw [List.find?_append]
      cases hr : l.known.find? (·.1 = r.key) with
      | some e =>
        have he : e.2 < l.table.meshes.length := h.place e (List.mem_of_find?_eq_some hr)
        simp [he, List.getElem?_append_left he]
      | none =>
        by_cases hkey : a.request.key = r.key
        · simp [hkey, Request.key_eq_iff.mp hkey, Except.toOption]
        · simp [hkey, mt Request.key_eq_iff.mpr hkey]
    · intro e he
      rcases List.mem_append.mp he with he | he
      · exact Nat.lt_trans (h.place e he) hnew
      · obtain rfl := List.mem_singleton.mp he
        exact hnew
    · exact Table.valid_use (Table.valid_mesh h.valid mesh) a.place hnew
    · rw [List.filterMap_append, ← h.entries, ← Table.entries_mesh h.valid mesh]
      exact Table.entries_use ⟨l.table.meshes ++ [mesh], l.table.uses⟩ a.place hmesh
    · rw [List.filterMap_append, ← h.problems]
      simp [Loading.answer, problem?]

/-! ## A run over all shapes -/

theorem askers_of_none {base : String} {s : Shape} (h : request? base s = none) (i : Nat)
    (rest : List (Nat × Shape)) : askers base ((i, s) :: rest) = askers base rest := by
  simp [askers, h]

theorem askers_of_some {base : String} {s : Shape} {r : Request} (h : request? base s = some r)
    (i : Nat) (rest : List (Nat × Shape)) :
    askers base ((i, s) :: rest) = ⟨i, s.location, r⟩ :: askers base rest := by
  simp [askers, h]

theorem serve_serves (base : String) (shapes : List (Nat × Shape)) :
    ∀ {before told} {l : Loading}, Serves load before told l →
      Serves load (before ++ askers base shapes) (told ++ replies load before (askers base shapes))
        (serve (m := Id) load base l shapes) := by
  induction shapes with
  | nil =>
    intro before told l h
    show Serves load (before ++ []) (told ++ []) l
    rw [List.append_nil, List.append_nil]
    exact h
  | cons head rest ih =>
    intro before told l h
    obtain ⟨i, s⟩ := head
    unfold serve
    cases hrequest : request? base s with
    | none =>
      rw [askers_of_none hrequest]
      exact ih h
    | some r =>
      rw [askers_of_some hrequest, replies, List.append_cons before, List.append_cons told]
      cases hfind : l.known.find? (·.1 = r.key) with
      | some e =>
        dsimp only
        rw [hfind]
        exact ih (share_serves h ⟨i, s.location, r⟩ hfind)
      | none =>
        dsimp only
        rw [hfind]
        exact ih (answer_serves h ⟨i, s.location, r⟩ hfind)

end

/-! ## The shapes of a scene -/

theorem request?_isSome (base : String) (s : Shape) :
    (request? base s).isSome = s.meshPath?.isSome := by
  unfold request? Shape.meshPath?
  split <;> simp_all

/-- The shapes that ask are those with a mesh file, each once and in order. -/
theorem askers_place (base : String) (scene : Scene) :
    (askers base scene.meshShapes).map (·.place) = scene.meshShapes.map (·.1) := by
  have hsome : ∀ e ∈ scene.meshShapes, (request? base e.2).isSome = true := by
    intro e he
    rw [request?_isSome]
    exact (List.mem_filter.mp he).2
  generalize scene.meshShapes = shapes at hsome ⊢
  induction shapes with
  | nil => rfl
  | cons e shapes ih =>
    obtain ⟨r, hr⟩ := Option.isSome_iff_exists.mp (hsome e List.mem_cons_self)
    have ih := ih fun e he => hsome e (List.mem_cons_of_mem _ he)
    rw [askers_of_some hr, List.map_cons, ih, List.map_cons]

theorem meshShapes_nodup (scene : Scene) : (scene.meshShapes.map (·.1)).Nodup := by
  have hall : ((scene.shapes.zipIdx.map fun p => (p.2, p.1)).map (·.1)).Nodup := by
    rw [List.map_map]
    show (scene.shapes.zipIdx.map Prod.snd).Nodup
    rw [List.zipIdx_map_snd]
    exact List.nodup_range'
  exact hall.sublist (List.filter_sublist.map _)

/-! ## What a result reports -/

theorem mem_entries {told : List (Asker × Except Fault Mesh)} {i : Nat} {mesh : Mesh} :
    (i, mesh) ∈ told.filterMap entry? ↔ ∃ a, (a, .ok mesh) ∈ told ∧ a.place = i := by
  rw [List.mem_filterMap]
  constructor
  · rintro ⟨⟨a, answer⟩, ha, hentry⟩
    cases answer with
    | error fault => cases hentry
    | ok m =>
      obtain ⟨rfl, rfl⟩ := Prod.mk.inj (Option.some.inj hentry)
      exact ⟨a, ha, rfl⟩
  · rintro ⟨a, ha, rfl⟩
    exact ⟨(a, .ok mesh), ha, rfl⟩

theorem entries_nodup {told : List (Asker × Except Fault Mesh)}
    (h : (told.map (·.1.place)).Nodup) : ((told.filterMap entry?).map (·.1)).Nodup := by
  refine h.sublist ?_
  clear h
  induction told with
  | nil => exact List.Sublist.slnil
  | cons r told ih =>
    obtain ⟨a, answer⟩ := r
    cases answer with
    | error fault => exact ih.cons a.place
    | ok mesh => exact ih.cons_cons a.place

theorem exists_of_no_problems {told : List (Asker × Except Fault Mesh)}
    (h : told.filterMap problem? = []) : ∀ r ∈ told, ∃ mesh, r.2 = .ok mesh := by
  rintro ⟨a, answer⟩ hr
  cases answer with
  | ok mesh => exact ⟨mesh, rfl⟩
  | error fault => exact absurd (List.filterMap_eq_nil_iff.mp h _ hr) (Option.some_ne_none _)

/-- A table without problems holds what was answered, and the problems are reported
otherwise. -/
theorem Serves.reports {load : Request → Except Fault Mesh} {before : List Asker}
    {told : List (Asker × Except Fault Mesh)} {l : Loading} (h : Serves load before told l)
    (hnodup : (told.map (·.1.place)).Nodup) :
    Reports told (if l.problems.isEmpty then .ok l.table else .error l.problems) := by
  cases hproblems : l.problems.isEmpty with
  | true =>
    rw [if_pos rfl]
    have hnone : told.filterMap problem? = [] := by
      rw [← h.problems]
      exact List.isEmpty_iff.mp hproblems
    refine ⟨exists_of_no_problems hnone, fun i mesh => ?_⟩
    have hentries : (l.table.entries.map (·.1)).Nodup := by
      rw [h.entries]
      exact entries_nodup hnodup
    rw [Table.mesh?_eq_some_iff h.valid hentries, h.entries, mem_entries]
  | false =>
    rw [if_neg Bool.false_ne_true]
    refine ⟨fun hnil => ?_, h.problems⟩
    rw [hnil] at hproblems
    cases hproblems

/-! ## Top theorem -/

/-- Every shape with a mesh file gets the mesh of the first such shape, up to itself, that
names the same place with the same shading and for which the loader has a mesh, and without
one the fault of its own request.  Where all requests for a place with one shading have one
format, and the loader does not care how a place is written, that is the loader's answer to
the shape's own request. -/
theorem loadAll_shares (load : Request → Except Fault Mesh) (base : String) (scene : Scene) :
    Reports (replies load [] (askers base scene.meshShapes))
        (loadAll (m := Id) load base scene) ∧
      (askers base scene.meshShapes).map (·.place) = scene.meshShapes.map (·.1) ∧
      (RespectsPaths load →
        (∀ a ∈ askers base scene.meshShapes, ∀ b ∈ askers base scene.meshShapes,
          a.request.SharesWith b.request → a.request.format = b.request.format) →
        Reports (ownReplies load (askers base scene.meshShapes))
          (loadAll (m := Id) load base scene)) := by
  have hnodup : ((replies load [] (askers base scene.meshShapes)).map (·.1.place)).Nodup := by
    have hfst : (replies load [] (askers base scene.meshShapes)).map (·.1) =
        askers base scene.meshShapes := replies_fst _ _
    have hplaces : (replies load [] (askers base scene.meshShapes)).map (·.1.place) =
        (askers base scene.meshShapes).map (·.place) := by
      conv => rhs; rw [← hfst, List.map_map]
      rfl
    rw [hplaces, askers_place]
    exact meshShapes_nodup scene
  have hreports : Reports (replies load [] (askers base scene.meshShapes))
      (loadAll (m := Id) load base scene) :=
    (serve_serves base scene.meshShapes start_serves).reports hnodup
  refine ⟨hreports, askers_place base scene, ?_⟩
  intro hload hformat
  rw [← replies_eq_own _ []]
  · exact hreports
  · intro b hb a ha hshares
    exact hload _ _ hshares (hformat b hb a ha hshares)

/-! ## Two formats for one file -/

/-- A loader that has one mesh for every Wavefront file, and none for other files. -/
def wavefrontOnly (r : Request) : Except Fault Mesh :=
  match r.format with
  | .obj => .ok ⟨#[], [], none⟩
  | .ply => .error (.unsupported r.format.name)

theorem wavefrontOnly_respectsPaths : RespectsPaths wavefrontOnly := by
  intro r r' _ hformat
  unfold wavefrontOnly
  rw [hformat]

/-- Shapes that name one file, each with its own format. -/
def onOneFile (formats : List MeshFormat) : Scene where
  version := ⟨3, 0, 0⟩
  parameters := []
  integrator := none
  sensors := []
  bsdfs := [⟨none, .diffuse ⟨0, 0, 0⟩⟩]
  emitters := []
  shapes := formats.map fun format =>
    ⟨none, .mesh format "a.obj" false, .identity, false, ⟨0⟩, none, none, none, ⟨1, 1⟩⟩
  volumes := []

theorem loadAll_shares_obj :
    RespectsPaths wavefrontOnly ∧
      Reports (ownReplies wavefrontOnly (askers "" (onOneFile [.obj, .obj]).meshShapes))
        (loadAll (m := Id) wavefrontOnly "" (onOneFile [.obj, .obj])) := by
  refine ⟨wavefrontOnly_respectsPaths,
    (loadAll_shares wavefrontOnly "" (onOneFile [.obj, .obj])).2.2
      wavefrontOnly_respectsPaths ?_⟩
  have haskers : askers "" (onOneFile [.obj, .obj]).meshShapes =
      [⟨0, ⟨1, 1⟩, "a.obj", .obj, false⟩, ⟨1, ⟨1, 1⟩, "a.obj", .obj, false⟩] := by
    rfl
  rw [haskers]
  intro a ha b hb _
  simp only [List.mem_cons, List.not_mem_nil, or_false] at ha hb
  rcases ha with rfl | rfl <;> rcases hb with rfl | rfl <;> rfl

/-- A file that was read as a Wavefront file is not refused to a shape that asks for another
format. -/
theorem not_loadAll_own :
    ¬ ∀ (load : Request → Except Fault Mesh) (base : String) (scene : Scene),
      RespectsPaths load → Reports (ownReplies load (askers base scene.meshShapes))
        (loadAll (m := Id) load base scene) := by
  intro h
  have hreports := h wavefrontOnly "" (onOneFile [.obj, .ply]) wavefrontOnly_respectsPaths
  have hload : loadAll (m := Id) wavefrontOnly "" (onOneFile [.obj, .ply]) =
      .ok ⟨[⟨#[], [], none⟩], [(0, 0), (1, 0)]⟩ := by
    rfl
  have hplace : (⟨1, ⟨1, 1⟩, "a.obj", .ply, false⟩ : Asker) ∈
      askers "" (onOneFile [.obj, .ply]).meshShapes := by
    have haskers : askers "" (onOneFile [.obj, .ply]).meshShapes =
        [⟨0, ⟨1, 1⟩, "a.obj", .obj, false⟩, ⟨1, ⟨1, 1⟩, "a.obj", .ply, false⟩] := by
      rfl
    rw [haskers]
    exact List.mem_cons_of_mem _ List.mem_cons_self
  rw [hload] at hreports
  obtain ⟨mesh, hmesh⟩ := hreports.1 _ (List.mem_map_of_mem hplace)
  cases hmesh

end SceneGraph.Mesh
