import SceneGraph.Decimal.Integer
import SceneGraph.Text.Blank
import SceneGraph.Text.Split

/-!
# Versions of the description format

A version is three numbers of 32 bits with dots between them. Descriptions of versions 2 and
3 can be loaded, whatever their minor and patch numbers.
-/

namespace SceneGraph

/-- The first number that differs decides which of two versions is the newer one. -/
structure Version where
  major : Nat
  minor : Nat
  patch : Nat
deriving DecidableEq, Repr, Ord

namespace Version

/-- Three unsigned numbers with dots between them; blanks around the whole are ignored. -/
def read (text : String) : Option Version :=
  match Text.splitAt '.' (Text.trim text.toList) with
  | [major, minor, patch] => do
    return ⟨← Decimal.readUnsigned32 major, ← Decimal.readUnsigned32 minor,
      ← Decimal.readUnsigned32 patch⟩
  | _ => none

def text (v : Version) : String := s!"{v.major}.{v.minor}.{v.patch}"

/-- The oldest version that can be loaded. -/
def oldest : Version := ⟨2, 0, 0⟩

/-- The major number of the newest versions that can be loaded. -/
def newestMajor : Nat := 3

def isSupported (v : Version) : Bool := (compare v oldest).isGE && v.major ≤ newestMajor

end Version

end SceneGraph
