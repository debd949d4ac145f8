import SceneMarkup.CommandLine.Run

/-!
# The program

The command line on the files and the standard streams of its process.
-/

namespace SceneMarkup.CommandLine

/-- A fault in the words of the system and its number. -/
def systemFault (code : UInt32) (words : String) : FileFault :=
  .other (words ++ " (os error " ++ code.toNat.repr ++ ")")

def faultOf (e : IO.Error) : FileFault :=
  match e with
  | .noFileOrDirectory .. => .missing
  | .permissionDenied _ code words => systemFault code words
  | .inappropriateType _ code words => systemFault code words
  | .resourceBusy code words => systemFault code words
  | .resourceExhausted _ code words => systemFault code words
  | .resourceVanished code words => systemFault code words
  | .invalidArgument _ code words => systemFault code words
  | .otherError code words => systemFault code words
  | e => .other (toString e)

/-- The result of an action, or the fault that it met. -/
def attempt {α : Type} (action : IO α) : IO (Except FileFault α) := do
  try
    return .ok (← action)
  catch e => return .error (faultOf e)

instance : System IO where
  readFile path := attempt (IO.FS.withFile path .read fun h => h.readBinToEnd)
  readInput := attempt do (← IO.getStdin).readBinToEnd
  writeFile path text := attempt <| IO.FS.withFile path .write fun h => do
    h.putStr text
    h.flush
  print text := attempt do
    let stdout ← IO.getStdout
    stdout.putStr text
    stdout.flush
  report text := do (← IO.getStderr).putStr text

end SceneMarkup.CommandLine

def main (args : List String) : IO UInt32 := do
  let exit ← SceneMarkup.CommandLine.perform args
  return exit.toUInt32
