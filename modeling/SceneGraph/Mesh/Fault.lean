/-!
# Why a mesh cannot be loaded
-/

namespace SceneGraph.Mesh

/-- What is wrong with the text of a Wavefront file. -/
inductive WavefrontFault where
  | cannotOpen
  | unreadable
  | position
  | zeroWeight
  | color
  | texcoord
  | normal
  | face
  | material
  | emptyPolygon
  | vertexRange
  | texcoordRange
  | normalRange
  | colorRange
deriving DecidableEq, Repr

def WavefrontFault.message : WavefrontFault → String
  | .cannotOpen => "open file failed"
  | .unreadable => "read error"
  | .position => "position parse error"
  | .zeroWeight => "scaling (w) by zero"
  | .color => "color parse error (too many or too few components)"
  | .texcoord => "texcoord parse error"
  | .normal => "normal parse error"
  | .face => "face parse error"
  | .material => "material parse error"
  | .emptyPolygon => "invalid polygon"
  | .vertexRange => "face vertex index out of bounds"
  | .texcoordRange => "face texcoord index out of bounds"
  | .normalRange => "face normal index out of bounds"
  | .colorRange => "face vertex color index out of bounds"

/-- How a mesh contradicts itself. -/
inductive Defect where
  | noModels
  | partialTriangle (indices : Nat)
  | indexRange (index vertices : Nat)
  | normalCount (normals vertices : Nat)
  /-- A loader's own reason. -/
  | refused (reason : String)
deriving DecidableEq, Repr

def Defect.message : Defect → String
  | .noModels => "no models found in OBJ file"
  | .partialTriangle n => s!"index count {n} is not a multiple of 3"
  | .indexRange i n => s!"index {i} out of range for {n} vertices"
  | .normalCount m n => s!"{m} normals for {n} vertices"
  | .refused reason => reason

inductive Fault where
  | wavefront (fault : WavefrontFault)
  | unsupported (format : String)
  | invalid (defect : Defect)
deriving DecidableEq, Repr

def Fault.message : Fault → String
  | .wavefront f => s!"OBJ error: {f.message}"
  | .unsupported format => s!"{format} meshes are not supported by this loader"
  | .invalid d => s!"invalid mesh: {d.message}"

end SceneGraph.Mesh
