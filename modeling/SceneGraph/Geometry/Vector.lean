import SceneGraph.Decimal.Binary32

/-!
# Vectors in single precision

Every operation rounds once per scalar operation, in the order in which it is written here.
-/

namespace SceneGraph.Geometry

structure Vec2 where
  x : Float32
  y : Float32
deriving DecidableEq

structure Vec3 where
  x : Float32
  y : Float32
  z : Float32
deriving DecidableEq

structure Vec4 where
  x : Float32
  y : Float32
  z : Float32
  w : Float32
deriving DecidableEq

/-- The smaller number, or the other one when one is not a number. -/
def lesser (a b : Float32) : Float32 := if b < a || a.isNaN then b else a

/-- The larger number, or the other one when one is not a number. -/
def greater (a b : Float32) : Float32 := if a < b || a.isNaN then b else a

namespace Vec3

def splat (s : Float32) : Vec3 := ⟨s, s, s⟩
def zero : Vec3 := ⟨0, 0, 0⟩
def one : Vec3 := ⟨1, 1, 1⟩
def unitY : Vec3 := ⟨0, 1, 0⟩
def negUnitZ : Vec3 := ⟨0, 0, -1⟩

def add (u v : Vec3) : Vec3 := ⟨u.x + v.x, u.y + v.y, u.z + v.z⟩
def sub (u v : Vec3) : Vec3 := ⟨u.x - v.x, u.y - v.y, u.z - v.z⟩
def scale (v : Vec3) (s : Float32) : Vec3 := ⟨v.x * s, v.y * s, v.z * s⟩
def dot (u v : Vec3) : Float32 := u.x * v.x + u.y * v.y + u.z * v.z

def cross (u v : Vec3) : Vec3 :=
  ⟨u.y * v.z - v.y * u.z, u.z * v.x - v.z * u.x, u.x * v.y - v.x * u.y⟩

def lengthSquared (v : Vec3) : Float32 := v.dot v
def length (v : Vec3) : Float32 := v.lengthSquared.sqrt
def normalize (v : Vec3) : Vec3 := v.scale (1 / v.length)

/-- The direction of a vector, unless its length is zero, infinite or not a number. -/
def normalize? (v : Vec3) : Option Vec3 :=
  let r := 1 / v.length
  if r.isFinite && 0 < r then some (v.scale r) else none

def normalizeOrZero (v : Vec3) : Vec3 := v.normalize?.getD zero

def least (v : Vec3) : Float32 := lesser v.x (lesser v.y v.z)
def greatest (v : Vec3) : Float32 := greater v.x (greater v.y v.z)

def lesser (u v : Vec3) : Vec3 :=
  ⟨Geometry.lesser u.x v.x, Geometry.lesser u.y v.y, Geometry.lesser u.z v.z⟩

def greater (u v : Vec3) : Vec3 :=
  ⟨Geometry.greater u.x v.x, Geometry.greater u.y v.y, Geometry.greater u.z v.z⟩

instance : Add Vec3 := ⟨add⟩
instance : Sub Vec3 := ⟨sub⟩

def toList (v : Vec3) : List Float32 := [v.x, v.y, v.z]

/-- The vectors whose components stand in a row; less than three at its end are left out. -/
def ofRow : List Float32 → List Vec3
  | x :: y :: z :: rest => ⟨x, y, z⟩ :: ofRow rest
  | _ => []

end Vec3

namespace Vec4

def add (u v : Vec4) : Vec4 := ⟨u.x + v.x, u.y + v.y, u.z + v.z, u.w + v.w⟩
def scale (v : Vec4) (s : Float32) : Vec4 := ⟨v.x * s, v.y * s, v.z * s, v.w * s⟩
def xyz (v : Vec4) : Vec3 := ⟨v.x, v.y, v.z⟩
def ofVec3 (v : Vec3) (w : Float32) : Vec4 := ⟨v.x, v.y, v.z, w⟩

instance : Add Vec4 := ⟨add⟩

def toList (v : Vec4) : List Float32 := [v.x, v.y, v.z, v.w]

end Vec4

end SceneGraph.Geometry
