import Mathlib.Data.List.Count
import SceneGraph.Mesh.Basic

/-!
# Normals at vertices

A mesh scatters the normals of its triangles: it goes through its indices once, and adds what it
finds to the sums at three corners.  Seen from a vertex the same sum is gathered from the triangles
around it, of which each counts once for every corner that it has there:

    one corner      the sum there grows once               (getElem?_modifyAll)
    one triple      each sum grows by the triple's shares  (getElem?_scatter)
    all triples     each sum is gathered                   (getElem?_foldl_scatter, normalSums_eq)

Three indices that are no triangle have no shares, and a triangle has none where it has no corner
(`shares_eq_nil`).  So a vertex gets its normal from the triangles around it alone.
-/

namespace SceneGraph

open SceneGraph.Geometry

theorem length_lt_of_not_row {α : Type} {xs : List α}
    (h : ∀ x y z rest, xs = x :: y :: z :: rest → False) : xs.length < 3 := by
  match xs, h with
  | [], _ => simp
  | [_], _ => simp
  | [_, _], _ => simp
  | x :: y :: z :: rest, h => exact (h x y z rest rfl).elim

/-! ## Triangles -/

/-- Three corners among `n` vertices. -/
structure Triangle (n : Nat) where
  first : Fin n
  second : Fin n
  third : Fin n
deriving DecidableEq

namespace Triangle

def corners {n : Nat} (t : Triangle n) : List (Fin n) := [t.first, t.second, t.third]

/-- The triangle of three indices, if each of them is that of a vertex. -/
def ofIndices? (n i j k : Nat) : Option (Triangle n) :=
  if h : i < n ∧ j < n ∧ k < n then some ⟨⟨i, h.1⟩, ⟨j, h.2.1⟩, ⟨k, h.2.2⟩⟩ else none

/-- The triangle with the number `t`, of the three indices from the place `3 * t` on. -/
def at? (n : Nat) (is : List Nat) (t : Nat) : Option (Triangle n) := do
  ofIndices? n (← is[3 * t]?) (← is[3 * t + 1]?) (← is[3 * t + 2]?)

/-- The triangles in a list of indices, in order. -/
def all (n : Nat) (is : List Nat) : List (Triangle n) :=
  (List.range (is.length / 3)).filterMap (at? n is)

/-- The cross product of the two sides that leave the first corner. -/
def normal (positions : Array Vec3) (t : Triangle positions.size) : Vec3 :=
  (positions[t.second] - positions[t.first]).cross (positions[t.third] - positions[t.first])

/-- What a triangle adds to the sum at a vertex: its normal, once for each corner there. -/
def shares (positions : Array Vec3) (v : Fin positions.size) (t : Triangle positions.size) :
    List Vec3 :=
  List.replicate (t.corners.count v) (t.normal positions)

section

variable {n i j k : Nat} {is : List Nat}

theorem map_corners {t : Triangle n} (h : ofIndices? n i j k = some t) :
    t.corners.map Fin.val = [i, j, k] := by
  unfold ofIndices? at h
  split at h
  · obtain rfl := Option.some.inj h
    rfl
  · cases h

theorem ofIndices?_eq_none (h : ¬ (i < n ∧ j < n ∧ k < n)) : ofIndices? n i j k = none :=
  dif_neg h

theorem all_cons : all n (i :: j :: k :: is) = (ofIndices? n i j k).toList ++ all n is := by
  have hlength : (i :: j :: k :: is).length / 3 = is.length / 3 + 1 := by
    simp only [List.length_cons]
    omega
  have hfirst : at? n (i :: j :: k :: is) 0 = ofIndices? n i j k := rfl
  have hrest : at? n (i :: j :: k :: is) ∘ Nat.succ = at? n is := rfl
  rw [all, hlength, List.range_succ_eq_map, List.filterMap_cons, List.filterMap_map, hfirst, hrest]
  cases ofIndices? n i j k with
  | none => rfl
  | some t => rfl

theorem all_of_length_lt (h : is.length < 3) : all n is = [] := by
  rw [all, Nat.div_eq_of_lt h]
  rfl

/-- Whole triples in front are triangles by themselves. -/
theorem all_append {front : List Nat} (h : 3 ∣ front.length) (back : List Nat) :
    all n (front ++ back) = all n front ++ all n back := by
  induction front using Mesh.triples.induct with
  | case1 i j k rest ih =>
    simp only [List.length_cons] at h
    simp only [List.cons_append, all_cons, ih (by omega), List.append_assoc]
  | case2 front hrow =>
    have hlength := length_lt_of_not_row hrow
    obtain rfl : front = [] := List.length_eq_zero_iff.mp (by omega)
    rfl

end

section

variable {positions : Array Vec3} {v : Fin positions.size} {t : Triangle positions.size}

theorem shares_eq_nil (h : v ∉ t.corners) : t.shares positions v = [] := by
  rw [shares, List.count_eq_zero.mpr h]
  rfl

/-- Only the triangles around a vertex have shares in its sum. -/
theorem flatMap_shares_around (ts : List (Triangle positions.size)) :
    (ts.filter (·.corners.contains v)).flatMap (shares positions v) =
      ts.flatMap (shares positions v) := by
  induction ts with
  | nil => rfl
  | cons t ts ih =>
    rw [List.filter_cons, List.flatMap_cons, ← ih]
    by_cases ht : v ∈ t.corners
    · rw [if_pos (List.contains_iff_mem.mpr ht), List.flatMap_cons]
    · rw [if_neg (mt List.contains_iff_mem.mp ht), shares_eq_nil ht, List.nil_append]

end

end Triangle

namespace Mesh

/-! ## Scattering -/

theorem triples_of_length_lt {is : List Nat} (h : is.length < 3) : triples is = [] := by
  match is, h with
  | [], _ => rfl
  | [_], _ => rfl
  | [_, _], _ => rfl

theorem size_scatter (positions sums : Array Vec3) (t : Nat × Nat × Nat) :
    (scatter positions sums t).size = sums.size := by
  unfold scatter
  split
  · rfl
  · simp only [Array.size_modify]

/-- There is a sum for each vertex. -/
theorem size_normalSums (mesh : Mesh) : mesh.normalSums.size = mesh.vertexCount := by
  have hfold : ∀ (ts : List (Nat × Nat × Nat)) (sums : Array Vec3),
      (ts.foldl (scatter mesh.positions) sums).size = sums.size := by
    intro ts
    induction ts with
    | nil => exact fun _ => rfl
    | cons t ts ih => exact fun sums => (ih _).trans (size_scatter _ _ t)
  rw [normalSums, hfold, Array.size_replicate]
  rfl

/-- A corner counts as often as it is named. -/
theorem getElem?_modifyAll (n : Vec3) (is : List Nat) (sums : Array Vec3) (v : Nat) :
    (is.foldl (fun sums i => sums.modify i (· + n)) sums)[v]? =
      sums[v]?.map fun s => (List.replicate (is.count v) n).foldl (· + ·) s := by
  induction is generalizing sums with
  | nil => simp
  | cons i is ih =>
    rw [List.foldl_cons, ih, Array.getElem?_modify]
    by_cases hi : i = v
    · subst hi
      rw [if_pos rfl, List.count_cons_self, List.replicate_succ]
      simp [Option.map_map, Function.comp_def]
    · rw [if_neg hi, List.count_cons_of_ne hi]

variable {positions : Array Vec3}

/-- A triple has a normal if it is a triangle. -/
theorem faceNormal?_eq (i j k : Nat) : faceNormal? positions (i, j, k) =
    (Triangle.ofIndices? positions.size i j k).map (Triangle.normal positions) := by
  unfold faceNormal? Triangle.ofIndices?
  by_cases hi : i < positions.size
  · by_cases hj : j < positions.size
    · by_cases hk : k < positions.size
      · simp [hi, hj, hk, Triangle.normal]
      · simp [hi, hj, hk]
    · simp [hi, hj]
  · simp [hi]

/-- One triple adds its shares, if it is a triangle. -/
theorem getElem?_scatter (v : Fin positions.size) (sums : Array Vec3) (i j k : Nat) :
    (scatter positions sums (i, j, k))[v.val]? = sums[v.val]?.map fun s =>
      ((Triangle.ofIndices? positions.size i j k).toList.flatMap
        (Triangle.shares positions v)).foldl (· + ·) s := by
  rw [scatter, faceNormal?_eq]
  cases ht : Triangle.ofIndices? positions.size i j k with
  | none => simp
  | some t =>
    have hcount : [i, j, k].count v.val = t.corners.count v := by
      rw [← Triangle.map_corners ht]
      exact List.count_map_of_injective _ _ (fun _ _ => Fin.ext) v
    have hcorners := getElem?_modifyAll (t.normal positions) [i, j, k] sums v
    rw [hcount] at hcorners
    simpa [Triangle.shares] using hcorners

/-- All triples add their shares one after the other. -/
theorem getElem?_foldl_scatter (v : Fin positions.size) (is : List Nat) (sums : Array Vec3) :
    ((triples is).foldl (scatter positions) sums)[v.val]? = sums[v.val]?.map fun s =>
      ((Triangle.all positions.size is).flatMap (Triangle.shares positions v)).foldl (· + ·) s := by
  -- Every triple starts from the sums that the triples before it have left.
  induction is using triples.induct generalizing sums with
  | case1 i j k rest ih =>
    rw [triples, List.foldl_cons, ih, getElem?_scatter, Option.map_map, Triangle.all_cons]
    simp only [Function.comp_def, List.flatMap_append, List.foldl_append]
  | case2 is hrow =>
    rw [triples_of_length_lt (length_lt_of_not_row hrow),
      Triangle.all_of_length_lt (length_lt_of_not_row hrow)]
    exact Option.map_id'.symm

/-! ## Gathering -/

variable (m : Mesh)

/-- The sum of the normals around a vertex, each as often as its triangle has a corner there. -/
def gathered (v : Fin m.positions.size) : Vec3 :=
  ((Triangle.all m.positions.size m.indices).flatMap (Triangle.shares m.positions v)).foldl
    (· + ·) Vec3.zero

/-- The triangles with a corner at a vertex, in the order of the indices. -/
def trianglesAround (v : Fin m.positions.size) : List (Triangle m.positions.size) :=
  (Triangle.all m.positions.size m.indices).filter (·.corners.contains v)

/-- The mesh with other indices. -/
abbrev withIndices (is : List Nat) : Mesh := { m with indices := is }

/-- The normal of a vertex, if the mesh has normals. -/
def normal? (v : Nat) : Option Vec3 := m.normals.bind (·[v]?)

theorem getElem?_normalSums (v : Fin m.positions.size) :
    m.normalSums[v.val]? = some (m.gathered v) := by
  rw [normalSums, getElem?_foldl_scatter, Array.getElem?_replicate, if_pos v.isLt]
  rfl

theorem normalSums_eq : m.normalSums = Array.ofFn m.gathered := by
  refine Array.ext ?_ fun v hv hv' => ?_
  · rw [size_normalSums, Array.size_ofFn]
    rfl
  · rw [Array.size_ofFn] at hv'
    rw [Array.getElem_ofFn]
    exact (Array.getElem?_eq_some_iff.mp (m.getElem?_normalSums ⟨v, hv'⟩)).2

theorem withNormals_normals : m.withNormals.normals =
    some (Array.ofFn fun v => (m.gathered v).normalize?.getD Vec3.unitY) := by
  rw [withNormals, normalSums_eq, Array.map_ofFn]
  rfl

theorem withNormals_normal? (v : Fin m.positions.size) :
    m.withNormals.normal? v = some ((m.gathered v).normalize?.getD Vec3.unitY) := by
  rw [normal?, withNormals_normals, Option.bind_some, Array.getElem?_ofFn, dif_pos v.isLt]

/-- The sum at a vertex is that of the triangles around it. -/
theorem gathered_eq (v : Fin m.positions.size) : m.gathered v =
    ((m.trianglesAround v).flatMap (Triangle.shares m.positions v)).foldl (· + ·) Vec3.zero := by
  rw [trianglesAround, Triangle.flatMap_shares_around, gathered]

section

variable {m : Mesh} {is : List Nat}

/-- Of the indices nothing counts but the triangles. -/
theorem withNormals_congr
    (h : Triangle.all m.positions.size is = Triangle.all m.positions.size m.indices) :
    (m.withIndices is).withNormals.normals = m.withNormals.normals := by
  have hgathered : (m.withIndices is).gathered = m.gathered := by
    funext v
    unfold gathered
    dsimp only
    rw [h]
  rw [withNormals_normals, withNormals_normals, hgathered]

theorem normal?_congr {v : Fin m.positions.size}
    (h : (m.withIndices is).trianglesAround v = m.trianglesAround v) :
    (m.withIndices is).withNormals.normal? v = m.withNormals.normal? v := by
  have hgathered : (m.withIndices is).gathered v = m.gathered v := by
    rw [gathered_eq, gathered_eq, h]
  have hleft := (m.withIndices is).withNormals_normal? v
  rw [hleft, withNormals_normal?, hgathered]

end

/-- **Normals are gathered.**  A mesh, whatever its defects, keeps its positions and indices, and
gets one normal for each vertex: the direction of the sum of the normals around it, and up where
there is none.  Three indices that are not all those of vertices, and indices at the end that are
less than three, can be left out; and a vertex keeps its normal as long as the triangles around it
stay the same. -/
theorem withNormals_gathers (m : Mesh) :
    (m.withNormals.positions = m.positions ∧ m.withNormals.indices = m.indices ∧
      m.withNormals.normals =
        some (Array.ofFn fun v => (m.gathered v).normalize?.getD Vec3.unitY)) ∧
    (∀ front i j k back, m.indices = front ++ i :: j :: k :: back → 3 ∣ front.length →
      ¬ (i < m.positions.size ∧ j < m.positions.size ∧ k < m.positions.size) →
        (m.withIndices (front ++ back)).withNormals.normals = m.withNormals.normals) ∧
    (∀ front rest, m.indices = front ++ rest → 3 ∣ front.length → rest.length < 3 →
      (m.withIndices front).withNormals.normals = m.withNormals.normals) ∧
    ∀ (is : List Nat) (v : Fin m.positions.size),
      (m.withIndices is).trianglesAround v = m.trianglesAround v →
        (m.withIndices is).withNormals.normal? v = m.withNormals.normal? v := by
  refine ⟨⟨rfl, rfl, m.withNormals_normals⟩, ?_, ?_, fun is v => normal?_congr⟩
  · intro front i j k back hindices hfront houtside
    refine withNormals_congr ?_
    rw [hindices, Triangle.all_append hfront, Triangle.all_append hfront, Triangle.all_cons,
      Triangle.ofIndices?_eq_none houtside]
    rfl
  · intro front rest hindices hfront hrest
    refine withNormals_congr ?_
    rw [hindices, Triangle.all_append hfront, Triangle.all_of_length_lt hrest, List.append_nil]

/-- Two triangles, between them three indices of which one names no vertex, and two indices behind
them. -/
def foldedMesh : Mesh :=
  ⟨#[⟨0, 0, 0⟩, ⟨1, 0, 0⟩, ⟨0, 1, 0⟩, ⟨0, 0, 1⟩], [0, 1, 2, 0, 9, 3, 2, 3, 1, 0, 1], none⟩

theorem withNormals_gathers_foldedMesh :
    (foldedMesh.withIndices [0, 1, 2, 2, 3, 1, 0, 1]).withNormals.normals =
      foldedMesh.withNormals.normals ∧
    (foldedMesh.withIndices [0, 1, 2, 0, 9, 3, 2, 3, 1]).withNormals.normals =
      foldedMesh.withNormals.normals ∧
    (foldedMesh.withIndices [0, 1, 2]).trianglesAround ⟨0, by decide⟩ =
      foldedMesh.trianglesAround ⟨0, by decide⟩ ∧
    (foldedMesh.withIndices [0, 1, 2]).trianglesAround ⟨1, by decide⟩ ≠
      foldedMesh.trianglesAround ⟨1, by decide⟩ ∧
    foldedMesh.withNormals.normal? 0 = some ⟨0, 0, 1⟩ := by
  obtain ⟨-, hcut, hrest, haround⟩ := withNormals_gathers foldedMesh
  have hsame : (foldedMesh.withIndices [0, 1, 2]).trianglesAround ⟨0, by decide⟩ =
      foldedMesh.trianglesAround ⟨0, by decide⟩ := by
    decide +kernel
  refine ⟨hcut [0, 1, 2] 0 9 3 [2, 3, 1, 0, 1] rfl (by decide) (by decide),
    hrest [0, 1, 2, 0, 9, 3, 2, 3, 1] [0, 1] rfl (by decide) (by decide), hsame,
    by decide +kernel, ?_⟩
  rw [← haround [0, 1, 2] ⟨0, by decide⟩ hsame]
  decide +kernel

end Mesh

end SceneGraph
