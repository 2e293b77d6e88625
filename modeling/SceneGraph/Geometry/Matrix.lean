import SceneGraph.Geometry.Vector

/-!
# Four by four matrices by columns

A matrix acts on column vectors, so in a product the right factor acts first.
-/

namespace SceneGraph.Geometry

/-- A matrix, given by the images of the three axes and of the origin. -/
structure Mat4 where
  xAxis : Vec4
  yAxis : Vec4
  zAxis : Vec4
  wAxis : Vec4
deriving DecidableEq

namespace Mat4

def identity : Mat4 := ⟨⟨1, 0, 0, 0⟩, ⟨0, 1, 0, 0⟩, ⟨0, 0, 1, 0⟩, ⟨0, 0, 0, 1⟩⟩

/-- The image of a column vector. -/
def apply (m : Mat4) (v : Vec4) : Vec4 :=
  m.xAxis.scale v.x + m.yAxis.scale v.y + m.zAxis.scale v.z + m.wAxis.scale v.w

def mul (a b : Mat4) : Mat4 :=
  ⟨a.apply b.xAxis, a.apply b.yAxis, a.apply b.zAxis, a.apply b.wAxis⟩

instance : Mul Mat4 := ⟨mul⟩

/-- The image of a direction; the translation has no part in it. -/
def applyDirection (m : Mat4) (v : Vec3) : Vec3 :=
  (m.xAxis.scale v.x + m.yAxis.scale v.y + m.zAxis.scale v.z).xyz

def translation (t : Vec3) : Mat4 := { identity with wAxis := Vec4.ofVec3 t 1 }

def scaling (s : Vec3) : Mat4 := ⟨⟨s.x, 0, 0, 0⟩, ⟨0, s.y, 0, 0⟩, ⟨0, 0, s.z, 0⟩, ⟨0, 0, 0, 1⟩⟩

/-- The rotation by `angle` radians about a unit vector. -/
def rotation (a : Vec3) (angle : Float32) : Mat4 :=
  let s := angle.sin
  let c := angle.cos
  let o := 1 - c
  let xy := a.x * a.y * o
  let xz := a.x * a.z * o
  let yz := a.y * a.z * o
  ⟨⟨a.x * a.x * o + c, xy + a.z * s, xz - a.y * s, 0⟩,
   ⟨xy - a.z * s, a.y * a.y * o + c, yz + a.x * s, 0⟩,
   ⟨xz + a.y * s, yz - a.x * s, a.z * a.z * o + c, 0⟩,
   ⟨0, 0, 0, 1⟩⟩

/-- The matrix with the given rows, from sixteen numbers for all of it or nine for its upper
left part. -/
def ofRows? : List Float32 → Option Mat4
  | [a, b, c, d, e, f, g, h, i, j, k, l, m, n, o, p] =>
    some ⟨⟨a, e, i, m⟩, ⟨b, f, j, n⟩, ⟨c, g, k, o⟩, ⟨d, h, l, p⟩⟩
  | [a, b, c, d, e, f, g, h, i] =>
    some ⟨⟨a, d, g, 0⟩, ⟨b, e, h, 0⟩, ⟨c, f, i, 0⟩, ⟨0, 0, 0, 1⟩⟩
  | _ => none

/-- Where the local origin goes. -/
def origin (m : Mat4) : Vec3 := m.wAxis.xyz

/-- Where the local z axis points; zero when it has no direction. -/
def forward (m : Mat4) : Vec3 := (m.applyDirection ⟨0, 0, 1⟩).normalizeOrZero

/-- The bottom row is `0 0 0 1`. -/
def isAffine (m : Mat4) : Bool :=
  m.xAxis.w == 0 && m.yAxis.w == 0 && m.zAxis.w == 0 && m.wAxis.w == 1

/-- The sixteen numbers, column after column. -/
def toList (m : Mat4) : List Float32 :=
  m.xAxis.toList ++ m.yAxis.toList ++ m.zAxis.toList ++ m.wAxis.toList

end Mat4

end SceneGraph.Geometry
