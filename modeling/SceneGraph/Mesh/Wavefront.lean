import SceneGraph.Decimal.Binary32
import SceneGraph.Mesh.Basic
import SceneGraph.Text.Blank
import SceneGraph.Text.Split

/-!
# Wavefront files

A file is read line by line. Vertex data pile up over the whole file, faces only until the
next object or group begins; then they are exported as a model, in which every distinct
combination of position, texture coordinate and normal becomes one vertex. Lines with unknown
first words are skipped.
-/

namespace SceneGraph.Mesh.Wavefront

open SceneGraph.Geometry Decimal

/-- The places of a corner's position, texture coordinate and normal; `-1` for none. -/
structure Corner where
  position : Int
  texcoord : Int
  normal : Int
deriving DecidableEq

structure State where
  positions : Array Vec3
  /-- How many texture coordinates, and how many color components, were read. -/
  texcoords : Nat
  colors : Nat
  normals : Array Vec3
  /-- Faces that belong to no model yet. -/
  faces : List (List Corner)
  models : List Model

def State.empty : State := ⟨#[], 0, 0, #[], [], []⟩

/-! ## Corners and faces -/

/-- A written index is counted from one, or backwards from what was read so far. -/
def place (count : Nat) (written : Int) : Int :=
  if written < 0 then count + written else written - 1

/-- One field of a corner; an empty field is no index. -/
def readField (count : Nat) (field : List Char) : Option Int :=
  if field.isEmpty then some (-1) else (readSigned64 field).map (place count)

/-- Up to three fields with slashes between them. -/
def readCorner (s : State) (word : List Char) : Option Corner :=
  match Text.splitAt '/' word with
  | v :: rest => do
    let position ← readField s.positions.size v
    let texcoord ← readField s.texcoords (rest.head?.getD [])
    let normal ← readField s.normals.size ((rest.drop 1).head?.getD [])
    if (rest.drop 2).all (·.isEmpty) then some ⟨position, texcoord, normal⟩ else none
  | [] => none

/-- The triangles that share the first corner of a polygon. -/
def fan (a : Corner) : Corner → List Corner → List Corner
  | _, [] => []
  | b, c :: rest => a :: b :: c :: fan a c rest

/-- The corners of a face's triangles; points and lines become triangles without area. -/
def triangulate : List Corner → Option (List Corner)
  | [] => none
  | [a] => some [a, a, a]
  | [a, b] => some [a, b, b]
  | a :: b :: rest => some (fan a b rest)

/-! ## Exporting a model -/

/-- A model under construction; a corner's vertex is its place among the corners seen. -/
structure Export where
  seen : List Corner
  positions : Array Vec3
  normals : Array Vec3
  indices : List Nat

/-- The element at a place that may be out of range on either side. -/
def lookup? (xs : Array Vec3) (i : Int) : Option Vec3 := if i < 0 then none else xs[i.toNat]?

/-- The normal of a new vertex, if it has one. -/
def cornerNormal? (s : State) (c : Corner) : Except WavefrontFault (Option Vec3) :=
  if s.normals.isEmpty || c.normal = -1 then .ok none
  else
    match lookup? s.normals c.normal with
    | some n => .ok (some n)
    | none => .error .normalRange

/-- Adds a corner, and a vertex for it if it is the first of its kind. -/
def addCorner (s : State) (e : Export) (c : Corner) : Except WavefrontFault Export :=
  match e.seen.idxOf? c with
  | some i => .ok { e with indices := e.indices ++ [i] }
  | none =>
    match lookup? s.positions c.position with
    | none => .error .vertexRange
    | some position => do
      if 0 < s.texcoords ∧ c.texcoord ≠ -1 ∧ (c.texcoord < 0 ∨ s.texcoords ≤ c.texcoord) then
        throw .texcoordRange
      let normal ← cornerNormal? s c
      if 0 < s.colors ∧ (s.colors : Int) ≤ 3 * c.position + 2 then
        throw .colorRange
      return ⟨e.seen ++ [c], e.positions.push position, e.normals ++ normal.toArray,
        e.indices ++ [e.seen.length]⟩

def addFace (s : State) (e : Export) (face : List Corner) : Except WavefrontFault Export :=
  match triangulate face with
  | none => .error .emptyPolygon
  | some corners => corners.foldlM (addCorner s) e

/-- The model of the pending faces. -/
def exportModel (s : State) : Except WavefrontFault Model := do
  let e ← s.faces.foldlM (addFace s) ⟨[], #[], #[], []⟩
  return ⟨e.positions.toList.flatMap Vec3.toList, e.normals.toList.flatMap Vec3.toList,
    e.indices.map UInt32.ofNat⟩

/-- Turns the pending faces into a model. -/
def State.flush (s : State) : Except WavefrontFault State := do
  return { s with models := s.models ++ [← exportModel s], faces := [] }

/-! ## Lines -/

/-- The numbers that the first three words write. -/
def readTriple : List (List Char) → Option Vec3
  | x :: y :: z :: _ => do return ⟨← Binary32.read x, ← Binary32.read y, ← Binary32.read z⟩
  | _ => none

/-- A position: three coordinates, and possibly a divisor for them or three color
components, which are read up to the first that is no number. -/
def readPosition (s : State) (words : List (List Char)) : Except WavefrontFault State :=
  match readTriple words with
  | none => .error .position
  | some p =>
    match words.drop 3 with
    | [] => .ok { s with positions := s.positions.push p }
    | [w] =>
      match Binary32.read w with
      | none => .error .position
      | some w =>
        if w == 0 then .error .zeroWeight
        else .ok { s with positions := s.positions.push ⟨p.x / w, p.y / w, p.z / w⟩ }
    | [r, g, b] =>
      let components := [r, g, b].takeWhile fun word => (Binary32.read word).isSome
      .ok { s with positions := s.positions.push p, colors := s.colors + components.length }
    | _ => .error .color

/-- A texture coordinate, of which only its being there matters. -/
def readTexcoord (s : State) : List (List Char) → Except WavefrontFault State
  | u :: v :: _ =>
    if (Binary32.read u).isSome && (Binary32.read v).isSome then
      .ok { s with texcoords := s.texcoords + 1 }
    else .error .texcoord
  | _ => .error .texcoord

def readNormal (s : State) (words : List (List Char)) : Except WavefrontFault State :=
  match readTriple words with
  | some n => .ok { s with normals := s.normals.push n }
  | none => .error .normal

def readFace (s : State) (words : List (List Char)) : Except WavefrontFault State :=
  match words.mapM (readCorner s) with
  | some face => .ok { s with faces := s.faces ++ [face] }
  | none => .error .face

/-- The text behind the first space of a line, which names the material to use. -/
def materialName (line : List Char) : List Char :=
  Text.trim ((line.dropWhile (· ≠ ' ')).drop 1)

/-- What the first word of a line calls for. -/
def readLine (s : State) (line : List Char) : Except WavefrontFault State :=
  match Text.words line with
  | [] => .ok s
  | word :: words =>
    if word = ['v'] then readPosition s words
    else if word = ['v', 't'] then readTexcoord s words
    else if word = ['v', 'n'] then readNormal s words
    else if word = ['f'] ∨ word = ['l'] then readFace s words
    else if word = ['o'] ∨ word = ['g'] then if s.faces.isEmpty then .ok s else s.flush
    else if word = ['u', 's', 'e', 'm', 't', 'l'] then
      if (materialName line).isEmpty then .error .material else .ok s
    else .ok s

/-! ## Files -/

/-- The bytes between line feeds. -/
def byteLines (bytes : List UInt8) : List (List UInt8) :=
  bytes.foldr (fun b lines =>
    if b = 10 then [] :: lines
    else
      match lines with
      | [] => [[b]]
      | line :: rest => (b :: line) :: rest) [[]]

/-- Reads a line, which must be text. -/
def readBytes (s : State) (line : List UInt8) : Except WavefrontFault State :=
  match String.fromUTF8? ⟨line.toArray⟩ with
  | none => .error .unreadable
  | some text => readLine s text.toList

/-- The models of a file; the last one ends with the file. -/
def readModels (bytes : ByteArray) : Except WavefrontFault (List Model) := do
  let s ← (byteLines bytes.toList).foldlM readBytes State.empty
  return (← s.flush).models

/-- The mesh of a file. -/
def read (bytes : ByteArray) (faceNormals : Bool) : Except Mesh.Fault Mesh :=
  match readModels bytes with
  | .error f => .error (.wavefront f)
  | .ok models => (Mesh.ofModels models faceNormals).mapError .invalid

end SceneGraph.Mesh.Wavefront
