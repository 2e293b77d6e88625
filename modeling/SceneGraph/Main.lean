import SceneGraph.CommandLine

/-!
# The program

Reads files from the file system and prints what the command line answers.
-/

namespace SceneGraph.Main

/-- The fault behind a failure to read a file. Reading a directory fails with the number 21,
and opening a path with a NUL byte in it with 22. -/
def faultOf : IO.Error → File.Fault
  | .inappropriateType _ 21 _ => .isDirectory
  | .inappropriateType _ _ _ => .notDirectory
  | .invalidArgument _ 22 _ => .nulInPath
  | .invalidArgument _ _ _ => .nameTooLong
  | _ => .notFound

/-- The contents of a file. -/
def readFile (path : String) : IO (Except File.Fault ByteArray) := do
  try
    return .ok (← IO.FS.readBinFile path)
  catch e =>
    return .error (faultOf e)

end SceneGraph.Main

def main (words : List String) : IO UInt32 := do
  let response ← SceneGraph.CommandLine.run SceneGraph.Main.readFile words
  (← IO.getStdout).putStr response.output
  (← IO.getStderr).putStr response.errors
  return response.code.toUInt32
