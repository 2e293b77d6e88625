import SceneGraph.Geometry.Vector
import SceneGraph.Mesh.Fault

/-!
# Triangle meshes

Three indices in a row name the corners of one triangle. A mesh without normals is shaded
flat.
-/

namespace SceneGraph

open SceneGraph.Geometry

structure Mesh where
  positions : Array Vec3
  indices : List Nat
  normals : Option (Array Vec3)
deriving DecidableEq

namespace Mesh

variable (m : Mesh)

def vertexCount : Nat := m.positions.size

def triangleCount : Nat := m.indices.length / 3

/-- The least and greatest coordinates of all vertices. -/
def bounds? : Option (Vec3 × Vec3) :=
  m.positions[0]?.map fun first =>
    m.positions.foldl (fun (low, high) p => (low.lesser p, high.greater p)) (first, first)

/-- The first way in which the mesh contradicts itself. -/
def defect? : Option Defect :=
  if m.indices.length % 3 ≠ 0 then some (.partialTriangle m.indices.length)
  else
    match m.indices.find? (m.positions.size ≤ ·) with
    | some i => some (.indexRange i m.positions.size)
    | none =>
      match m.normals with
      | some normals =>
        if normals.size ≠ m.positions.size then
          some (.normalCount normals.size m.positions.size)
        else none
      | none => none

/-! ## Vertex normals -/

/-- The complete triples in a list of indices. -/
def triples : List Nat → List (Nat × Nat × Nat)
  | i :: j :: k :: rest => (i, j, k) :: triples rest
  | _ => []

/-- The normal of a triangle with the length of twice its area; only if all its corners are
there. -/
def faceNormal? (positions : Array Vec3) (t : Nat × Nat × Nat) : Option Vec3 := do
  let p ← positions[t.1]?
  let q ← positions[t.2.1]?
  let r ← positions[t.2.2]?
  return (q - p).cross (r - p)

/-- Adds a triangle's normal to the sums at its corners. -/
def scatter (positions : Array Vec3) (sums : Array Vec3) (t : Nat × Nat × Nat) : Array Vec3 :=
  match faceNormal? positions t with
  | none => sums
  | some n =>
    ((sums.modify t.1 (· + n)).modify t.2.1 (· + n)).modify t.2.2 (· + n)

/-- At each vertex, the sum of the normals of the triangles around it. -/
def normalSums : Array Vec3 :=
  (triples m.indices).foldl (scatter m.positions) (Array.replicate m.positions.size Vec3.zero)

/-- The direction of a sum of normals; up, where there is none. -/
def direction (sum : Vec3) : Vec3 := sum.normalize?.getD Vec3.unitY

/-- The mesh with normals that average those of the triangles around each vertex. -/
def withNormals : Mesh := { m with normals := some (m.normalSums.map direction) }

end Mesh

/-! ## One mesh out of several models -/

/-- A part of a mesh file with its own vertices: three coordinates in a row for each vertex, and
three indices in a row for each triangle. Normals are of use only if there is one for each
vertex. -/
structure Model where
  positions : List Float32
  normals : List Float32
  indices : List UInt32

namespace Model

def hasNormals (m : Model) : Bool := m.normals.length = m.positions.length

end Model

namespace Mesh

/-- Several models in one, as far as they are merged. -/
structure Merging where
  positions : Array Vec3
  normals : Array Vec3
  indices : Array UInt32
  /-- All models have normals so far. -/
  complete : Bool

namespace Merging

def start : Merging := ⟨#[], #[], #[], true⟩

/-- Adds a model. Its indices are counted on, in 32 bits, behind the vertices of the models
before. -/
def add (g : Merging) (m : Model) : Merging :=
  let base := UInt32.ofNat g.positions.size
  { positions := g.positions ++ Vec3.ofRow m.positions
    normals := if m.hasNormals then g.normals ++ Vec3.ofRow m.normals else g.normals
    indices := g.indices ++ m.indices.map (· + base)
    complete := g.complete && m.hasNormals }

end Merging

/-- All models in one mesh. It keeps the models' normals if all have them; otherwise normals
are computed, unless the faces are to be flat. -/
def merge (models : List Model) (faceNormals : Bool) : Mesh :=
  let merged := models.foldl Merging.add Merging.start
  let flat : Mesh := ⟨merged.positions, merged.indices.toList.map UInt32.toNat, none⟩
  if faceNormals then flat
  else if merged.complete then { flat with normals := some merged.normals }
  else flat.withNormals

/-- The mesh of a file's models, if it is one. -/
def ofModels (models : List Model) (faceNormals : Bool) : Except Defect Mesh :=
  if models.isEmpty then .error .noModels
  else
    let mesh := merge models faceNormals
    match mesh.defect? with
    | some d => .error d
    | none => .ok mesh

end Mesh

end SceneGraph
