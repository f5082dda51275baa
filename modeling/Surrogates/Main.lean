/-
Surrogates.Main — the program on the files of the system.
-/
import Surrogates.CommandLine.Run

namespace Surrogates.Main

/-- The cause of an error of the system. -/
def cause : IO.Error → FileError
  | .noFileOrDirectory .. => .notFound
  | .alreadyExists .. => .alreadyExists
  | .permissionDenied .. => .other "Permission denied (os error 13)"
  | .inappropriateType _ code _ => if code = 21 then .isDirectory else .notDirectory
  | .userError message => .other message
  | e => .other (toString e)

/-- An operation that gives its error as a cause. -/
def guarded (operation : IO α) : IO (Except FileError α) := do
  match ← operation.toBaseIO with
  | .ok a => return .ok a
  | .error e => return .error (cause e)

instance : FileSystem IO where
  kind? path := do
    if path.isEmpty then return none
    match ← guarded ((← IO.currentDir) / path).metadata with
    | .ok data => return some (if data.type == .dir then .directory else .file)
    | .error _ => return none
  read path := guarded (IO.FS.readFile path)
  list path := guarded do
    return (← ((← IO.currentDir) / path).readDir).toList.map (·.fileName)
  makeDirectory path := guarded (IO.FS.createDir path)
  write path contents := guarded (IO.FS.writeFile path contents)

/-- Runs the program on arguments. -/
def run (arguments : List String) : IO UInt32 := do
  let outcome : CommandLine.Outcome ← CommandLine.run arguments
  (← IO.getStdout).putStr outcome.stdout
  (← IO.getStderr).putStr outcome.stderr
  return outcome.exitCode.toUInt32

end Surrogates.Main

/-- The program. -/
def main (arguments : List String) : IO UInt32 :=
  Surrogates.Main.run arguments
