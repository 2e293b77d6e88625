import SceneGraph.Loader
import SceneGraph.Mesh.Table
import SceneGraph.Scene.Json
import SceneGraph.Scene.Summary

/-!
# The command line

A call names one description and may override its parameters. It prints the scene as a
summary or as JSON, and on request reads the meshes as well. Files are read through a
function, so a call is a value of whatever that function's effects are.
-/

namespace SceneGraph.CommandLine

/-- What a call asks for. -/
structure Call where
  scene : String
  overrides : List (String × String)
  strict : Bool
  json : Bool
  loadMeshes : Bool
deriving DecidableEq, Repr

/-- Why the words of a call make no sense. -/
inductive UsageFault where
  | notDefinition (value : String)
  | unnamedDefinition (value : String)
  | definitionWithoutValue
  | unexpected (word : String)
  | repeatedFlag (flag : String)
  | noScene
deriving DecidableEq, Repr

def UsageFault.message : UsageFault → String
  | notDefinition v =>
    s!"invalid value '{v}' for '-D <NAME=VALUE>': expected NAME=VALUE, got '{v}'"
  | unnamedDefinition v =>
    s!"invalid value '{v}' for '-D <NAME=VALUE>': empty parameter name in '{v}'"
  | definitionWithoutValue =>
    "a value is required for '-D <NAME=VALUE>' but none was supplied"
  | unexpected word => s!"unexpected argument '{word}' found"
  | repeatedFlag flag => s!"the argument '{flag}' cannot be used multiple times"
  | noScene => "the following required arguments were not provided:\n  <SCENE>"

/-- A name and a value around the first equals sign. -/
def readDefinition (text : String) : Except UsageFault (String × String) :=
  let cs := text.toList
  match cs.dropWhile (· ≠ '=') with
  | [] => .error (.notDefinition text)
  | _ :: value =>
    let name := cs.takeWhile (· ≠ '=')
    if name.isEmpty then .error (.unnamedDefinition text)
    else .ok (String.ofList name, String.ofList value)

/-- A call while its words are read. -/
structure Draft where
  scene : Option String
  overrides : List (String × String)
  flags : List String

def Draft.empty : Draft := ⟨none, [], []⟩

def Draft.define (d : Draft) (text : String) : Except UsageFault Draft := do
  return { d with overrides := d.overrides ++ [← readDefinition text] }

def Draft.flag (d : Draft) (flag : String) : Except UsageFault Draft :=
  if d.flags.contains flag then .error (.repeatedFlag flag)
  else .ok { d with flags := d.flags ++ [flag] }

def Draft.position (d : Draft) (word : String) : Except UsageFault Draft :=
  if d.scene.isSome then .error (.unexpected word) else .ok { d with scene := some word }

def flags : List String := ["--strict", "--json", "--load-meshes"]

/-- The value that is written together with `-D`, with or without an equals sign between. -/
def attachedValue (cs : List Char) : String :=
  match cs with
  | '=' :: value => String.ofList value
  | value => String.ofList value

/-- Reads words in order; behind two dashes there are no options. -/
def readWords (d : Draft) : List String → Except UsageFault Draft
  | [] => .ok d
  | "--" :: words => words.foldlM Draft.position d
  | "-D" :: words =>
    match words with
    | [] => .error .definitionWithoutValue
    | value :: rest =>
      if value.toList.head? = some '-' && value ≠ "-" then .error .definitionWithoutValue
      else
        match d.define value with
        | .error f => .error f
        | .ok d => readWords d rest
  | word :: words =>
    let next :=
      match word.toList with
      | '-' :: 'D' :: value => d.define (attachedValue value)
      | '-' :: _ :: _ => if flags.contains word then d.flag word else .error (.unexpected word)
      | _ => d.position word
    match next with
    | .error f => .error f
    | .ok d => readWords d words

def readCall (words : List String) : Except UsageFault Call := do
  let d ← readWords Draft.empty words
  match d.scene with
  | none => throw .noScene
  | some scene =>
    return ⟨scene, d.overrides, d.flags.contains "--strict", d.flags.contains "--json",
      d.flags.contains "--load-meshes"⟩

/-- What a call leaves behind. -/
structure Response where
  code : Nat
  output : String
  errors : String
deriving DecidableEq, Repr

/-- Every line but the first moved in by four blanks. -/
def indent (text : String) : String :=
  String.ofList (text.toList.flatMap fun c => if c = '\n' then "\n    ".toList else [c])

variable {m : Type → Type} [Monad m] (readFile : String → m (Except File.Fault ByteArray))

/-- Loads the description in a file. -/
def loadFile (options : Options) (path : String) : m Run := do
  match (← readFile path).bind File.decodeText with
  | .error fault => return Run.fail [] [] [.unreadable path fault]
  | .ok text => return Load.text options text

/-- Answers a call. -/
def answer (call : Call) : m Response := do
  match (← loadFile readFile ⟨call.overrides, call.strict⟩ call.scene).result with
  | .error problems =>
    return ⟨1, "", s!"Error: load scene '{call.scene}'\n\nCaused by:\n    " ++
      indent (Problem.report problems) ++ "\n"⟩
  | .ok scene =>
    let output := if call.json then scene.toJson.pretty ++ "\n" else scene.summary
    if call.loadMeshes then
      match ← Mesh.loadAll (Mesh.fileLoader readFile) (File.Path.parent call.scene) scene with
      | .error problems => return ⟨1, output, s!"Error: {Problem.report problems}\n"⟩
      | .ok table =>
        let meshes := table.entries
        let triangles := meshes.foldl (fun n (_, mesh) => n + mesh.triangleCount) 0
        return ⟨0, output, s!"loaded {meshes.length} meshes, {triangles} triangles\n"⟩
    else return ⟨0, output, ""⟩

/-- Reads the words of a call and answers it. -/
def run (words : List String) : m Response :=
  match readCall words with
  | .error fault =>
    pure ⟨2, "", s!"error: {fault.message}\n\nFor more information, try '--help'.\n"⟩
  | .ok call => answer readFile call

end SceneGraph.CommandLine
