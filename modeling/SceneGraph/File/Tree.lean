import SceneGraph.File.Fault
import SceneGraph.File.Path

/-!
# Files in a directory tree

A tree lists the files below a working directory by their paths. A path is followed one
segment at a time, as an operating system does: only a directory can be gone through, and a
slash at the end asks for a directory.
-/

namespace SceneGraph.File

/-- Files with their contents, by the names on the way to them. -/
structure Tree where
  files : List (List (List Char) × ByteArray)

namespace Tree

/-- The names in a path. -/
def names (path : String) : List (List Char) :=
  (Path.components path).filterMap fun
    | .name n => some n
    | _ => none

def ofList (files : List (String × ByteArray)) : Tree :=
  ⟨files.map fun (path, content) => (names path, content)⟩

def content? (t : Tree) (place : List (List Char)) : Option ByteArray :=
  (t.files.find? (·.1 = place)).map (·.2)

/-- The working directory, or a place with files below it. -/
def isDirectory (t : Tree) (place : List (List Char)) : Bool :=
  place.isEmpty || t.files.any fun (names, _) => place.isPrefixOf names && names ≠ place

/-- Bytes of a name in UTF-8. -/
def byteLength (segment : List Char) : Nat := (String.ofList segment).utf8ByteSize

/-- What segments find outside of the working directory. Only its ancestors are known there,
and they are directories. -/
def faultOutside (segments : List (List Char)) : Fault :=
  if segments.all fun s => s = [] ∨ s = ['.'] ∨ s = ['.', '.'] then .isDirectory else .notFound

/-- Follows segments from a directory to the contents of a file. -/
def follow (t : Tree) (place : List (List Char)) : List (List Char) → Except Fault ByteArray
  | [] => .error .isDirectory
  | segment :: rest =>
    if segment = [] ∨ segment = ['.'] then follow t place rest
    else if segment = ['.', '.'] then
      if place.isEmpty then .error (faultOutside rest) else follow t place.dropLast rest
    else if 255 < byteLength segment then .error .nameTooLong
    else
      let next := place ++ [segment]
      match t.content? next with
      | some content => if rest.isEmpty then .ok content else .error .notDirectory
      | none => if t.isDirectory next then follow t next rest else .error .notFound

/-- The contents of the file at a path. -/
def read (t : Tree) (path : String) : Except Fault ByteArray :=
  if path.isEmpty then .error .notFound
  else if path.toList.contains '\x00' then .error .nulInPath
  else if 4096 ≤ path.utf8ByteSize then .error .nameTooLong
  else if Path.isAbsolute path then .error (faultOutside (Path.segments path))
  else t.follow [] (Path.segments path)

end Tree

/-- The text that bytes encode. -/
def decodeText (bytes : ByteArray) : Except Fault String :=
  match String.fromUTF8? bytes with
  | some text => .ok text
  | none => .error .notText

end SceneGraph.File
