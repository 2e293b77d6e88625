import SceneGraph.Geometry.Matrix

/-!
# Transforms as lists of operations

The first operation of a list acts first, so the matrix of a list is the product of the
matrices from right to left. Position alone decides: operations are neither grouped nor
reordered (`compose_append`).
-/

namespace SceneGraph.Geometry

/-- One step of a transform. -/
inductive Operation where
  /-- A turn about an axis, by an angle in degrees. -/
  | rotate (axis : Vec3) (angle : Float32)
  | translate (offset : Vec3)
  | scale (factors : Vec3)
  | matrix (m : Mat4)
  /-- The frame at `origin` whose z axis points to `target`. -/
  | lookAt (origin target up : Vec3)
deriving DecidableEq

/-- Why an operation has no usable matrix. -/
inductive Operation.Fault where
  | zeroAxis
  | infiniteAngle
  | targetAtOrigin
  | upAlongView
deriving DecidableEq, Repr

def Operation.Fault.message : Operation.Fault → String
  | .zeroAxis => "rotation axis must be non-zero"
  | .infiniteAngle => "rotation angle must be finite"
  | .targetAtOrigin => "look-at origin and target coincide"
  | .upAlongView => "look-at up vector is parallel to the view direction"

namespace Operation

/-- The first reason not to use an operation. -/
def fault? : Operation → Option Fault
  | rotate axis angle =>
    if axis.lengthSquared == 0 then some .zeroAxis
    else if !angle.isFinite then some .infiniteAngle
    else none
  | lookAt origin target up =>
    let view := target - origin
    if view.lengthSquared == 0 then some .targetAtOrigin
    else if (up.cross view).lengthSquared == 0 then some .upAlongView
    else none
  | translate _ | scale _ | matrix _ => none

/-- Degrees to radians. -/
def radians (degrees : Float32) : Float32 := degrees * Float32.ofBits 0x3c8efa35

def toMatrix : Operation → Mat4
  | rotate axis angle => Mat4.rotation axis.normalize (radians angle)
  | translate t => Mat4.translation t
  | scale s => Mat4.scaling s
  | matrix m => m
  | lookAt origin target up =>
    let view := (target - origin).normalize
    let left := (up.cross view).normalize
    ⟨Vec4.ofVec3 left 0, Vec4.ofVec3 (view.cross left) 0, Vec4.ofVec3 view 0, Vec4.ofVec3 origin 1⟩

end Operation

/-- The matrix of operations that act after `m`. -/
def composeAfter (m : Mat4) (ops : List Operation) : Mat4 :=
  ops.foldl (fun acc op => op.toMatrix * acc) m

/-- The matrix of a list of operations. -/
def compose (ops : List Operation) : Mat4 := composeAfter Mat4.identity ops

theorem compose_append (ops more : List Operation) :
    compose (ops ++ more) = composeAfter (compose ops) more := List.foldl_append

end SceneGraph.Geometry
