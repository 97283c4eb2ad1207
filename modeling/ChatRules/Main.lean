import ChatRules.CommandLine

/-!
# The program

Reads what stands under the names among the arguments, runs the command on it,
and prints the output. All decisions are those of `CommandLine.run`.
-/

namespace ChatRules

/-- What an error of the file system says about a name. -/
def Stored.ofFault : IO.Error → Stored
  | .noFileOrDirectory .. => .absent
  | .inappropriateType _ code details | .permissionDenied _ code details
  | .otherError code details | .noSuchThing _ code details | .invalidArgument _ code details =>
    .unreadable (details ++ " (os error " ++ toString code.toNat ++ ")")
  | e => .unreadable (toString e)

/-- Looks up what stands under a name. -/
def lookUp (name : String) : IO (String × Stored) := do
  match ← (IO.FS.readBinFile name).toBaseIO with
  | .ok bytes => return (name, .ofBytes bytes)
  | .error e => return (name, .ofFault e)

/-- Runs the command that the arguments name. Where a seed is wanted and none is
given, it is random. -/
def runProgram (args : List String) : IO UInt32 := do
  let files ← args.mapM lookUp
  let chance ← IO.rand 0 (wordSize 64 - 1)
  let output := CommandLine.run (fun name => (Dict.find? name files).getD .absent) chance args
  (← IO.getStdout).putStr output.stdout
  (← IO.getStderr).putStr output.stderr
  return output.code.toUInt32

end ChatRules

def main (args : List String) : IO UInt32 := ChatRules.runProgram args
