import SceneGraph.Text.Split

/-!
# Paths as text

A path is kept as it was written. What it means is the list of its components: repeated
slashes, a slash at the end, and dots that do not stand first say nothing, while two dots are
kept. Two texts name the same place if their components agree.
-/

namespace SceneGraph.File

/-- One step of a path. -/
inductive Component where
  | root
  /-- The dot in front of a relative path. -/
  | here
  | parent
  | name (text : List Char)
deriving DecidableEq, Repr

namespace Path

/-- The parts of a path between slashes. -/
def segments (path : String) : List (List Char) := Text.splitAt '/' path.toList

def isAbsolute (path : String) : Bool := path.toList.head? == some '/'

/-- The component that a segment behind the first one writes, if any. -/
def component? (segment : List Char) : Option Component :=
  if segment = [] ∨ segment = ['.'] then none
  else if segment = ['.', '.'] then some .parent
  else some (.name segment)

def components (path : String) : List Component :=
  match segments path with
  | [] => []
  | first :: rest =>
    let start :=
      if isAbsolute path then some .root
      else if first = ['.'] then some .here
      else component? first
    start.toList ++ rest.filterMap component?

/-- `path` as seen from the directory `base`; an absolute path stays as it is. -/
def join (base path : String) : String :=
  if isAbsolute path || base.isEmpty then path
  else if base.toList.getLast? = some '/' then base ++ path
  else base ++ "/" ++ path

/-- The segments without those at the end that say nothing. -/
def trimSegments (segments : List (List Char)) : List (List Char) :=
  match segments with
  | [] => []
  | first :: rest => first :: (rest.reverse.dropWhile fun s => (component? s).isNone).reverse

/-- The text of segments that come from a path. -/
def ofSegments : List (List Char) → String
  | [[]] => "/"
  | segments => String.ofList (List.intercalate ['/'] segments)

/-- The directory that a path lies in, as far as its text says. -/
def parent (path : String) : String :=
  ofSegments (trimSegments (trimSegments (segments path)).dropLast)

end Path

end SceneGraph.File
