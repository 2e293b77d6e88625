import SceneGraph.File.Tree
import SceneGraph.Mesh.Wavefront
import SceneGraph.Problem
import SceneGraph.Scene.Query

/-!
# The meshes of a scene

Every shape with a mesh file asks a loader for it, unless an earlier request for the same
place and the same shading succeeded; then the shapes share one mesh. Failures are not
remembered, so each failed request is a problem of its own.
-/

namespace SceneGraph.Mesh

/-- What a shape asks a loader for. -/
structure Request where
  path : String
  format : MeshFormat
  faceNormals : Bool
deriving DecidableEq, Repr

/-- Requests with the same key are answered by the same mesh. -/
def Request.key (r : Request) : List File.Component × Bool :=
  (File.Path.components r.path, r.faceNormals)

/-- The request of a shape, for files that lie under `base`. -/
def request? (base : String) (s : Shape) : Option Request :=
  match s.surface with
  | .mesh format filename faceNormals => some ⟨File.Path.join base filename, format, faceNormals⟩
  | _ => none

/-- Meshes in the order of loading, and the shapes that use them by their places in the
scene and in that list. -/
structure Table where
  meshes : List Mesh
  uses : List (Nat × Nat)
deriving DecidableEq

namespace Table

/-- The mesh of the shape at a place in the scene. -/
def mesh? (t : Table) (shape : Nat) : Option Mesh :=
  (t.uses.find? (·.1 = shape)).bind fun (_, i) => t.meshes[i]?

/-- The meshes of all shapes that have one. -/
def entries (t : Table) : List (Nat × Mesh) :=
  t.uses.filterMap fun (shape, i) => t.meshes[i]?.map (shape, ·)

/-- The first shape that uses the same mesh. -/
def firstUse? (t : Table) (shape : Nat) : Option Nat := do
  let (_, i) ← t.uses.find? (·.1 = shape)
  let (first, _) ← t.uses.find? (·.2 = i)
  return first

end Table

/-- A table under construction. -/
structure Loading where
  /-- The keys of the requests that succeeded, with the places of their meshes. -/
  known : List ((List File.Component × Bool) × Nat)
  table : Table
  problems : List Problem

namespace Loading

def start : Loading := ⟨[], ⟨[], []⟩, []⟩

/-- A shape that shares a mesh. -/
def share (l : Loading) (shape i : Nat) : Loading :=
  { l with table.uses := l.table.uses ++ [(shape, i)] }

/-- What a loader answered to the request of a shape. -/
def answer (l : Loading) (shape : Nat) (location : Location) (r : Request) :
    Except Fault Mesh → Loading
  | .ok mesh =>
    let i := l.table.meshes.length
    { known := l.known ++ [(r.key, i)]
      table := ⟨l.table.meshes ++ [mesh], l.table.uses ++ [(shape, i)]⟩
      problems := l.problems }
  | .error fault =>
    { l with problems := l.problems ++ [.meshNotLoaded r.path location fault] }

end Loading

/-- Serves the shapes in order. The loader may have effects. -/
def serve {m : Type → Type} [Monad m] (loader : Request → m (Except Fault Mesh)) (base : String)
    (l : Loading) : List (Nat × Shape) → m Loading
  | [] => pure l
  | (i, shape) :: rest =>
    match request? base shape with
    | none => serve loader base l rest
    | some r =>
      match l.known.find? (·.1 = r.key) with
      | some (_, place) => serve loader base (l.share i place) rest
      | none => do
        let answer ← loader r
        serve loader base (l.answer i shape.location r answer) rest

/-- The meshes of a scene whose files lie under `base`, or a problem for each request that
failed. -/
def loadAll {m : Type → Type} [Monad m] (loader : Request → m (Except Fault Mesh))
    (base : String) (scene : Scene) : m (Except (List Problem) Table) := do
  let l ← serve loader base Loading.start scene.meshShapes
  return if l.problems.isEmpty then .ok l.table else .error l.problems

/-- Answers requests for Wavefront files out of what reading their paths gives. -/
def fileLoader {m : Type → Type} [Monad m] (readFile : String → m (Except File.Fault ByteArray))
    (r : Request) : m (Except Fault Mesh) :=
  match r.format with
  | .ply => pure (.error (.unsupported r.format.name))
  | .obj => do
    match ← readFile r.path with
    | .ok bytes => return Wavefront.read bytes r.faceNormals
    | .error .isDirectory => return .error (.wavefront .unreadable)
    | .error _ => return .error (.wavefront .cannotOpen)

end SceneGraph.Mesh
