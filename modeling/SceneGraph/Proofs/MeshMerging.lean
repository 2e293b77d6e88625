import Mathlib.Data.List.Basic
import Mathlib.Data.List.Induction
import SceneGraph.Proofs.VertexNormals

/-!
# Several models in one mesh

Models are merged one behind the other, and the indices of each are counted on behind the vertices
of those before it, in 32 bits.  What one model adds is carried through the list of models:

    positions      those of all models            (positions_all)
    normals        those of all models            (normals_all)
    indices        only grow at their end         (indices_prefix)
    all of them    fit together                   (add_sound, all_sound)

So an index stands in the mesh where the indices of the models before end, and names the vertex that
it names in its own model (`merge_corners`), and the mesh passes its check (`defect?_merge`).
-/

namespace SceneGraph

open SceneGraph.Geometry

/-! ## Vectors in a row -/

namespace Geometry.Vec3

/-- The vector with the number `i` among those whose components stand in a row. -/
def at? (xs : List Float32) (i : Nat) : Option Vec3 := do
  return ⟨← xs[3 * i]?, ← xs[3 * i + 1]?, ← xs[3 * i + 2]?⟩

theorem ofRow_of_length_lt {xs : List Float32} (h : xs.length < 3) : ofRow xs = [] := by
  match xs, h with
  | [], _ => rfl
  | [_], _ => rfl
  | [_, _], _ => rfl

theorem length_ofRow (xs : List Float32) : (ofRow xs).length = xs.length / 3 := by
  induction xs using ofRow.induct with
  | case1 x y z rest ih =>
    rw [ofRow, List.length_cons, ih]
    simp only [List.length_cons]
    omega
  | case2 xs h =>
    have hlength := length_lt_of_not_row h
    rw [ofRow_of_length_lt hlength, List.length_nil]
    omega

/-- Whole vectors lose no component. -/
theorem flatMap_ofRow {xs : List Float32} (h : 3 ∣ xs.length) : (ofRow xs).flatMap toList = xs := by
  induction xs using ofRow.induct with
  | case1 x y z rest ih =>
    simp only [List.length_cons] at h
    rw [ofRow, List.flatMap_cons, ih (by omega)]
    rfl
  | case2 xs hrow =>
    have hlength := length_lt_of_not_row hrow
    have hnil : xs = [] := List.length_eq_zero_iff.mp (by omega)
    rw [hnil]
    rfl

/-- Rows of whole vectors, taken together, lose no component. -/
theorem flatMap_flatMap_ofRow {α : Type} {as : List α} {row : α → List Float32}
    (h : ∀ a ∈ as, 3 ∣ (row a).length) :
    (as.flatMap fun a => ofRow (row a)).flatMap toList = as.flatMap row := by
  rw [List.flatMap_assoc]
  exact List.flatMap_congr fun a ha => flatMap_ofRow (h a ha)

theorem getElem?_ofRow (xs : List Float32) (i : Nat) : (ofRow xs)[i]? = at? xs i := by
  induction xs using ofRow.induct generalizing i with
  | case1 x y z rest ih =>
    cases i with
    | zero => rfl
    | succ i =>
      rw [ofRow, List.getElem?_cons_succ, ih]
      rfl
  | case2 xs h =>
    have hlength := length_lt_of_not_row h
    have hnone : xs[3 * i + 2]? = none := List.getElem?_eq_none (by omega)
    rw [ofRow_of_length_lt hlength, at?, hnone]
    cases xs[3 * i]? <;> cases xs[3 * i + 1]? <;> rfl

end Geometry.Vec3

/-! ## Models -/

namespace Model

def vertexCount (m : Model) : Nat := m.positions.length / 3

/-- What a reader of mesh files owes: whole vertices, whole triangles, and no corner without a
vertex. -/
structure Sound (m : Model) : Prop where
  vertices : 3 ∣ m.positions.length
  triangles : 3 ∣ m.indices.length
  inRange : ∀ i ∈ m.indices, i.toNat < m.vertexCount

/-- The vertex that an index of the model names. -/
def vertex? (m : Model) (i : UInt32) : Option Vec3 := Vec3.at? m.positions i.toNat

/-- There is a normal for each vertex. -/
def Smooth (m : Model) : Prop := m.normals.length = m.positions.length

def verticesIn : List Model → Nat
  | [] => 0
  | m :: models => m.vertexCount + verticesIn models

def indicesIn (models : List Model) : Nat := (models.flatMap (·.indices)).length

variable {m : Model}

theorem sound_iff : m.Sound ↔ 3 ∣ m.positions.length ∧ 3 ∣ m.indices.length ∧
    m.indices.all (fun i => i.toNat < m.vertexCount) = true := by
  simp only [List.all_eq_true, decide_eq_true_eq]
  exact ⟨fun h => ⟨h.vertices, h.triangles, h.inRange⟩,
    fun ⟨hvertices, htriangles, hrange⟩ => ⟨hvertices, htriangles, hrange⟩⟩

instance : Decidable m.Sound := decidable_of_iff _ sound_iff.symm

theorem hasNormals_iff : m.hasNormals = true ↔ m.Smooth := decide_eq_true_iff

theorem length_vertices (m : Model) : (Vec3.ofRow m.positions).length = m.vertexCount :=
  Vec3.length_ofRow m.positions

theorem verticesIn_split (before after : List Model) (m : Model) :
    verticesIn (before ++ m :: after) = verticesIn before + (m.vertexCount + verticesIn after) := by
  induction before with
  | nil => exact (Nat.zero_add _).symm
  | cons n before ih => rw [List.cons_append, verticesIn, ih, verticesIn, Nat.add_assoc]

theorem indicesIn_concat (models : List Model) (m : Model) :
    indicesIn (models ++ [m]) = indicesIn models + m.indices.length := by
  simp [indicesIn]

theorem exists_vertex {i : UInt32} (h : i.toNat < m.vertexCount) : ∃ p, m.vertex? i = some p := by
  rw [← length_vertices] at h
  exact ⟨_, (Vec3.getElem?_ofRow _ _).symm.trans (List.getElem?_eq_getElem h)⟩

theorem length_flatMap_vertices (models : List Model) :
    (models.flatMap fun m => Vec3.ofRow m.positions).length = verticesIn models := by
  induction models with
  | nil => rfl
  | cons m models ih =>
    rw [List.flatMap_cons, List.length_append, length_vertices, ih, verticesIn]

end Model

/-! ## Merging -/

namespace Mesh.Merging

open Model (verticesIn indicesIn)

/-- The merged lists fit together. -/
structure Sound (g : Merging) : Prop where
  triangles : 3 ∣ g.indices.toList.length
  inRange : ∀ i ∈ g.indices.toList, i.toNat < g.positions.size
  normals : g.complete = true → g.normals.size = g.positions.size

theorem start_sound : start.Sound where
  triangles := ⟨0, rfl⟩
  inRange := nofun
  normals _ := rfl

/-- An index is counted on without overflow as far as the vertices are. -/
theorem toNat_add_ofNat {i : UInt32} {n : Nat} (h : i.toNat + n < UInt32.size) :
    (i + UInt32.ofNat n).toNat = i.toNat + n := by
  rw [UInt32.toNat_add, UInt32.toNat_ofNat_of_lt' (by omega)]
  exact Nat.mod_eq_of_lt h

/-! ### One model -/

section

variable {g : Merging} {m : Model}

theorem toList_positions_add :
    (g.add m).positions.toList = g.positions.toList ++ Vec3.ofRow m.positions :=
  Array.toList_appendList

theorem toList_indices_add : (g.add m).indices.toList =
    g.indices.toList ++ m.indices.map (· + UInt32.ofNat g.positions.size) :=
  Array.toList_appendList

theorem toList_normals_add (hm : m.Smooth) :
    (g.add m).normals.toList = g.normals.toList ++ Vec3.ofRow m.normals := by
  rw [add, if_pos (Model.hasNormals_iff.mpr hm)]
  exact Array.toList_appendList

theorem complete_add : (g.add m).complete = true ↔ g.complete = true ∧ m.Smooth := by
  rw [add, Bool.and_eq_true, Model.hasNormals_iff]

theorem size_positions_add : (g.add m).positions.size = g.positions.size + m.vertexCount := by
  rw [← Array.length_toList, toList_positions_add, List.length_append, m.length_vertices,
    Array.length_toList]

theorem add_sound (hg : g.Sound) (hm : m.Sound)
    (hcount : g.positions.size + m.vertexCount < UInt32.size) : (g.add m).Sound where
  triangles := by
    rw [toList_indices_add, List.length_append, List.length_map]
    exact Nat.dvd_add hg.triangles hm.triangles
  inRange := by
    intro i hi
    rw [size_positions_add]
    rw [toList_indices_add] at hi
    rcases List.mem_append.mp hi with hi | hi
    · exact Nat.lt_add_right _ (hg.inRange i hi)
    · obtain ⟨j, hj, rfl⟩ := List.mem_map.mp hi
      have hrange := hm.inRange j hj
      rw [toNat_add_ofNat (by omega)]
      omega
  normals := by
    intro hcomplete
    obtain ⟨hbefore, hsmooth⟩ := complete_add.mp hcomplete
    have hnormals := hg.normals hbefore
    rw [size_positions_add, ← Array.length_toList, toList_normals_add hsmooth, List.length_append,
      Vec3.length_ofRow, hsmooth, Array.length_toList, hnormals]
    rfl

end

/-- Indices of later models stand behind those that are merged already. -/
theorem indices_prefix (models : List Model) (g : Merging) :
    g.indices.toList <+: (models.foldl add g).indices.toList := by
  induction models generalizing g with
  | nil => exact List.prefix_rfl
  | cons m models ih =>
    have hadd : g.indices.toList <+: (g.add m).indices.toList := by
      rw [toList_indices_add]
      exact List.prefix_append _ _
    exact hadd.trans (ih _)

/-! ### All models -/

def all (models : List Model) : Merging := models.foldl add start

theorem all_concat (models : List Model) (m : Model) :
    all (models ++ [m]) = (all models).add m :=
  List.foldl_append

theorem positions_all (models : List Model) :
    (all models).positions.toList = models.flatMap fun m => Vec3.ofRow m.positions := by
  induction models using List.reverseRecOn with
  | nil => rfl
  | append_singleton models m ih =>
    rw [all_concat, toList_positions_add, ih, List.flatMap_append, List.flatMap_singleton]

theorem normals_all {models : List Model} (hmodels : ∀ m ∈ models, m.Smooth) :
    (all models).normals.toList = models.flatMap fun m => Vec3.ofRow m.normals := by
  induction models using List.reverseRecOn with
  | nil => rfl
  | append_singleton models m ih =>
    obtain ⟨hmodels, hm⟩ := List.forall_mem_append.mp hmodels
    rw [all_concat, toList_normals_add (List.forall_mem_singleton.mp hm), ih hmodels,
      List.flatMap_append, List.flatMap_singleton]

theorem complete_all (models : List Model) :
    (all models).complete = true ↔ ∀ m ∈ models, m.Smooth := by
  induction models using List.reverseRecOn with
  | nil => exact iff_of_true rfl (List.forall_mem_nil _)
  | append_singleton models m ih =>
    rw [all_concat, complete_add, ih, List.forall_mem_append, List.forall_mem_singleton]

theorem length_indices_all (models : List Model) :
    (all models).indices.toList.length = indicesIn models := by
  induction models using List.reverseRecOn with
  | nil => rfl
  | append_singleton models m ih =>
    rw [all_concat, toList_indices_add, List.length_append, List.length_map, ih,
      Model.indicesIn_concat]

theorem size_positions_all (models : List Model) :
    (all models).positions.size = verticesIn models := by
  rw [← Array.length_toList, positions_all, Model.length_flatMap_vertices]

theorem all_sound {models : List Model} (hmodels : ∀ m ∈ models, m.Sound)
    (hcount : verticesIn models < UInt32.size) : (all models).Sound := by
  induction models using List.reverseRecOn with
  | nil => exact start_sound
  | append_singleton models m ih =>
    obtain ⟨hmodels, hm⟩ := List.forall_mem_append.mp hmodels
    rw [Model.verticesIn_split] at hcount
    rw [all_concat]
    refine add_sound (ih hmodels (by omega)) (List.forall_mem_singleton.mp hm) ?_
    rw [size_positions_all]
    omega

/-! ### The model at a place -/

section

variable {before after : List Model} {m : Model}

/-- An index stands behind those of the models before, and is counted on behind their vertices. -/
theorem getElem?_indices {k : Nat} {i : UInt32} (hi : m.indices[k]? = some i) :
    (all (before ++ m :: after)).indices.toList[indicesIn before + k]? =
      some (i + UInt32.ofNat (verticesIn before)) := by
  have hsplit : all (before ++ m :: after) = after.foldl add ((all before).add m) := by
    rw [all, List.foldl_append]
    rfl
  -- The models behind leave the indices in front of theirs alone, so `m` is the last to look at.
  obtain ⟨behind, hbehind⟩ := indices_prefix after ((all before).add m)
  rw [toList_indices_add, size_positions_all] at hbehind
  have hlength := length_indices_all before
  obtain ⟨hk, -⟩ := List.getElem?_eq_some_iff.mp hi
  rw [hsplit, ← hbehind, List.append_assoc, List.getElem?_append_right (by omega), hlength,
    Nat.add_sub_cancel_left, List.getElem?_append_left (by rwa [List.length_map]),
    List.getElem?_map, hi]
  rfl

/-- A vertex stands behind those of the models before. -/
theorem getElem?_positions {j : Nat} (hj : j < m.vertexCount) :
    (all (before ++ m :: after)).positions[verticesIn before + j]? = Vec3.at? m.positions j := by
  have hlength := Model.length_flatMap_vertices before
  rw [← Array.getElem?_toList, positions_all, List.flatMap_append, List.flatMap_cons,
    List.getElem?_append_right (by omega), hlength, Nat.add_sub_cancel_left,
    List.getElem?_append_left (by rwa [Model.length_vertices]), Vec3.getElem?_ofRow]

end

end Mesh.Merging

/-! ## The merged mesh -/

namespace Mesh

variable {models : List Model} {faceNormals : Bool}

theorem merge_positions :
    (merge models faceNormals).positions = (Merging.all models).positions := by
  unfold merge
  dsimp only
  split
  · rfl
  · split <;> rfl

theorem merge_indices : (merge models faceNormals).indices =
    (Merging.all models).indices.toList.map UInt32.toNat := by
  unfold merge
  dsimp only
  split
  · rfl
  · split <;> rfl

theorem merge_flat : (merge models true).normals = none := rfl

theorem merge_given (h : ∀ m ∈ models, m.Smooth) :
    (merge models false).normals = some (Merging.all models).normals := by
  have hcomplete : (models.foldl Merging.add Merging.start).complete = true :=
    (Merging.complete_all models).mpr h
  simp only [merge, hcomplete, Bool.false_eq_true, if_false, if_true]
  rfl

theorem merge_computed (h : ¬ ∀ m ∈ models, m.Smooth) : (merge models false).normals =
    some ((merge models false).normalSums.map direction) := by
  have hcomplete : ¬ (models.foldl Merging.add Merging.start).complete = true :=
    mt (Merging.complete_all models).mp h
  simp only [merge, hcomplete, Bool.false_eq_true, if_false]
  rfl

/-- A mesh has no defect if its lists fit together. -/
theorem defect?_eq_none {mesh : Mesh} (htriangles : 3 ∣ mesh.indices.length)
    (hrange : ∀ i ∈ mesh.indices, i < mesh.vertexCount)
    (hnormals : ∀ ns, mesh.normals = some ns → ns.size = mesh.vertexCount) :
    mesh.defect? = none := by
  have hfind : mesh.indices.find? (mesh.positions.size ≤ ·) = none := by
    rw [List.find?_eq_none]
    intro i hi
    rw [decide_eq_true_eq]
    exact Nat.not_le.mpr (hrange i hi)
  rw [defect?, if_neg (not_not.mpr (Nat.mod_eq_zero_of_dvd htriangles)), hfind]
  dsimp only
  split
  · next ns hns => exact if_neg (not_not.mpr (hnormals ns hns))
  · rfl

/-- Every normal of the mesh belongs to a vertex. -/
theorem size_normals_merge (hsound : (Merging.all models).Sound)
    {ns : Array Vec3} (h : (merge models faceNormals).normals = some ns) :
    ns.size = (merge models faceNormals).vertexCount := by
  cases faceNormals with
  | true => cases h
  | false =>
    by_cases hsmooth : ∀ m ∈ models, m.Smooth
    · obtain rfl := Option.some.inj ((merge_given hsmooth).symm.trans h)
      rw [vertexCount, merge_positions]
      exact hsound.normals ((Merging.complete_all models).mpr hsmooth)
    · obtain rfl := Option.some.inj ((merge_computed hsmooth).symm.trans h)
      rw [Array.size_map, size_normalSums]

theorem defect?_merge (hsound : (Merging.all models).Sound) :
    (merge models faceNormals).defect? = none := by
  refine defect?_eq_none ?_ ?_ fun ns => size_normals_merge hsound
  · rw [merge_indices, List.length_map]
    exact hsound.triangles
  · rw [merge_indices]
    intro i hi
    obtain ⟨j, hj, rfl⟩ := List.mem_map.mp hi
    rw [vertexCount, merge_positions]
    exact hsound.inRange j hj

/-- A mesh that is made of models.  It has their vertices one behind the other, and each of its
corners is the vertex that the model's own index names. -/
structure Joins (models : List Model) (faceNormals : Bool) (mesh : Mesh) : Prop where
  positions : mesh.positions.toList.flatMap Vec3.toList = models.flatMap (·.positions)
  corners : ∀ before m after, models = before ++ m :: after → ∀ k i, m.indices[k]? = some i →
    Model.verticesIn before + i.toNat < UInt32.size ∧
    mesh.indices[Model.indicesIn before + k]? = some (Model.verticesIn before + i.toNat) ∧
    ∃ p, m.vertex? i = some p ∧ mesh.positions[Model.verticesIn before + i.toNat]? = some p
  indexCount : mesh.indices.length = Model.indicesIn models
  flat : faceNormals = true → mesh.normals = none
  given : faceNormals = false → (∀ m ∈ models, m.Smooth) → ∃ ns, mesh.normals = some ns ∧
    ns.toList.flatMap Vec3.toList = models.flatMap (·.normals)
  computed : faceNormals = false → (¬ ∀ m ∈ models, m.Smooth) → ∃ ns, mesh.normals = some ns ∧
    ns = mesh.normalSums.map direction ∧ ns.size = mesh.vertexCount

section

variable (hsound : ∀ m ∈ models, m.Sound)

include hsound

theorem merge_components : (merge models faceNormals).positions.toList.flatMap Vec3.toList =
    models.flatMap (·.positions) := by
  rw [merge_positions, Merging.positions_all]
  exact Vec3.flatMap_flatMap_ofRow fun m hm => (hsound m hm).vertices

theorem merge_corners (hcount : Model.verticesIn models < UInt32.size) {before after : List Model}
    {m : Model} (hmodels : models = before ++ m :: after) {k : Nat} {i : UInt32}
    (hi : m.indices[k]? = some i) :
    Model.verticesIn before + i.toNat < UInt32.size ∧
    (merge models faceNormals).indices[Model.indicesIn before + k]? =
      some (Model.verticesIn before + i.toNat) ∧
    ∃ p, m.vertex? i = some p ∧
      (merge models faceNormals).positions[Model.verticesIn before + i.toNat]? = some p := by
  subst hmodels
  have hm := hsound m (by simp)
  have hrange := hm.inRange i (List.mem_of_getElem? hi)
  have hfits : Model.verticesIn before + i.toNat < UInt32.size := by
    rw [Model.verticesIn_split] at hcount
    omega
  refine ⟨hfits, ?_, ?_⟩
  · rw [merge_indices, List.getElem?_map, Merging.getElem?_indices hi, Option.map_some,
      Merging.toNat_add_ofNat (by omega), Nat.add_comm]
  · obtain ⟨p, hp⟩ := Model.exists_vertex hrange
    refine ⟨p, hp, ?_⟩
    rw [merge_positions, Merging.getElem?_positions hrange]
    exact hp

end

/-- **Models are merged without loss.**  Models with whole vertices, whole triangles and no corner
without a vertex, of less than `2 ^ 32` vertices together, are merged into one mesh that passes its
check. -/
theorem ofModels_joins {models : List Model} (faceNormals : Bool) (hne : models ≠ [])
    (hsound : ∀ m ∈ models, m.Sound) (hcount : Model.verticesIn models < UInt32.size) :
    ∃ mesh, ofModels models faceNormals = .ok mesh ∧ Joins models faceNormals mesh := by
  refine ⟨merge models faceNormals, ?_, ?_⟩
  · rw [ofModels, if_neg (by simpa using hne)]
    dsimp only
    rw [defect?_merge (Merging.all_sound hsound hcount)]
  · exact {
      positions := merge_components hsound
      corners := fun before m after hmodels k i => merge_corners hsound hcount hmodels
      indexCount := by
        rw [merge_indices, List.length_map, Merging.length_indices_all]
      flat := by
        rintro rfl
        exact merge_flat
      given := by
        rintro rfl hsmooth
        refine ⟨_, merge_given hsmooth, ?_⟩
        rw [Merging.normals_all hsmooth]
        exact Vec3.flatMap_flatMap_ofRow fun m hm => (hsmooth m hm).symm ▸ (hsound m hm).vertices
      computed := by
        rintro rfl hsmooth
        exact ⟨_, merge_computed hsmooth, rfl, by rw [Array.size_map, size_normalSums]⟩ }

/-- A triangle without normals, a model without anything, and a triangle with normals. -/
def unevenModels : List Model :=
  [⟨[0, 0, 0, 1, 0, 0, 0, 1, 0], [], [0, 1, 2]⟩, ⟨[], [], []⟩,
    ⟨[0, 0, 1, 1, 0, 1, 0, 1, 1], [0, 0, 1, 0, 0, 1, 0, 0, 1], [0, 2, 1]⟩]

theorem ofModels_joins_unevenModels :
    unevenModels ≠ [] ∧ (∀ m ∈ unevenModels, m.Sound) ∧
    Model.verticesIn unevenModels < UInt32.size ∧
    ∃ mesh, ofModels unevenModels false = .ok mesh ∧ Joins unevenModels false mesh ∧
      mesh.indices[4]? = some 5 ∧ mesh.positions[5]? = some ⟨0, 1, 1⟩ ∧
      ∃ ns, mesh.normals = some ns ∧ ns.size = mesh.vertexCount := by
  have hne : unevenModels ≠ [] := List.cons_ne_nil _ _
  have hsound : ∀ m ∈ unevenModels, m.Sound := by decide
  have hcount : Model.verticesIn unevenModels < UInt32.size := by decide
  obtain ⟨mesh, hmesh, hjoins⟩ := ofModels_joins false hne hsound hcount
  obtain ⟨-, hindex, p, hp, hposition⟩ :=
    hjoins.corners (unevenModels.take 2) (unevenModels[2]) [] rfl 1 2 rfl
  obtain rfl := Option.some.inj hp
  have hrough : ¬ ∀ m ∈ unevenModels, m.Smooth := fun h =>
    absurd (h _ (List.mem_cons_self)) (by unfold Model.Smooth; decide)
  obtain ⟨ns, hns, -, hsize⟩ := hjoins.computed rfl hrough
  exact ⟨hne, hsound, hcount, mesh, hmesh, hjoins, hindex, hposition, ns, hns, hsize⟩

end Mesh

end SceneGraph
