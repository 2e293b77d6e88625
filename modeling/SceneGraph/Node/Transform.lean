import SceneGraph.Node.Attribute

/-!
# Transform elements

Each child of a transform element is one operation, and the property is the matrix of all of
them in document order. One faulty child leaves the property without a value, but the other
children are read nevertheless, so that each fault is reported.
-/

namespace SceneGraph

open SceneGraph.Geometry Markup

namespace Transform

variable (params : Parameter.Table) (e : Element)

def readRotate : Checked Operation := do
  let axis ← Attribute.vector params e "value" e.tag
  let raw ← Attribute.required params e "angle" .noAngle
  let angle ← Attribute.checkLiteral e "angle" (Literal.readFloat raw.toList)
  return .rotate axis angle

/-- One number for all axes or one for each. -/
def readScale : Checked Operation := do
  match ← Attribute.value? params e "value" with
  | none => return .scale (← Attribute.coordinates params e 1 .vector e.tag)
  | some raw =>
    match ← Attribute.checkLiteral e e.tag (Literal.readFloats raw.toList) with
    | [s] => return .scale (Vec3.splat s)
    | [x, y, z] => return .scale ⟨x, y, z⟩
    | values => .fail (.malformed e.location (.scaleCount values.length))

def readMatrix : Checked Operation := do
  let raw ← Attribute.required params e "value" .noMatrixValue
  let values ← Attribute.checkLiteral e e.tag (Literal.readFloats raw.toList)
  match Mat4.ofRows? values with
  | some m => return .matrix m
  | none => .fail (.malformed e.location (.matrixCount values.length))

/-- All three vectors are read before a fault in one of them counts. -/
def readLookAt : Checked Operation := do
  if !e.hasAttribute "origin" || !e.hasAttribute "target" then
    .fail (.malformed e.location .incompleteLookAt)
  else
    let up :=
      if e.hasAttribute "up" then Attribute.vector params e "up" "up" else .of Vec3.unitY
    let (origin, target, up) ←
      (Attribute.vector params e "origin" "origin").both
        ((Attribute.vector params e "target" "target").both up)
    return .lookAt origin target up

/-- The operation that an element writes, by its tag. -/
def readOperation : Checked Operation :=
  if e.tag = "translate" then do return .translate (← Attribute.vector params e "value" e.tag)
  else if e.tag = "rotate" then readRotate params e
  else if e.tag = "scale" then readScale params e
  else if e.tag = "matrix" then readMatrix params e
  else if e.tag = "lookat" then readLookAt params e
  else .fail (.unexpectedElement e.tag e.location)

/-- The operation that an element writes, if it can be used. -/
def readUsable : Checked Operation := do
  let op ← readOperation params e
  match op.fault? with
  | none => return op
  | some fault => .fail (.malformed e.location (.operation e.tag fault))

/-- The operations of a transform element. -/
def readAll : Checked (List Operation) := Checked.all (e.children.map (readUsable params))

end Transform

end SceneGraph
