/-
Surrogates.Files.System — what programs do with files.

`FileSystem m` gives a monad the operations on files. Each takes a path and
says why it failed, where it did. `createDirectories` makes a directory and
those that it lies in.
-/
import Surrogates.Files.Path

namespace Surrogates

/-! ## §1 Operations -/

/-- Why an operation on files failed. -/
inductive FileError where
  | notFound
  | alreadyExists
  | isDirectory
  | notDirectory
  | nameTooLong
  /-- Another cause, in the words of the system. -/
  | other (message : String)
  deriving DecidableEq, Repr

/-- The cause in words, with its number. -/
def FileError.message : FileError → String
  | notFound => "No such file or directory (os error 2)"
  | alreadyExists => "File exists (os error 17)"
  | isDirectory => "Is a directory (os error 21)"
  | notDirectory => "Not a directory (os error 20)"
  | nameTooLong => "File name too long (os error 36)"
  | other message => message

/-- What a path leads to. -/
inductive FileKind where
  | file
  | directory
  deriving DecidableEq, Repr

/-- Operations on files. -/
class FileSystem (m : Type → Type) where
  /-- What a path leads to, if it leads to something. -/
  kind? : String → m (Option FileKind)
  /-- The text of a file. -/
  read : String → m (Except FileError String)
  /-- The names in a directory, in any order. -/
  list : String → m (Except FileError (List String))
  /-- Makes a directory in one that exists. -/
  makeDirectory : String → m (Except FileError Unit)
  /-- Gives a file a text, and makes the file if there is none. -/
  write : String → String → m (Except FileError Unit)

namespace Files

variable {m : Type → Type} [Monad m] [FileSystem m]

/-- Whether a path leads to a directory. -/
def isDirectory (path : String) : m Bool :=
  return (← FileSystem.kind? path) == some .directory

/-! ## §2 Directories -/

/-- Makes a directory; one that is there already will do. -/
def ensureDirectory (path : String) : m (Except FileError Unit) := do
  match ← FileSystem.makeDirectory path with
  | .ok () => return .ok ()
  | .error e => return if ← isDirectory path then .ok () else .error e

/-- Makes the first of some directories, each of which lies in the next; where
one is missing that it lies in, makes that one first. -/
def createFirst : List String → m (Except FileError Unit)
  | [] => return .error (.other "failed to create whole tree")
  | path :: above => do
    if path = "" then return .ok ()
    match ← ensureDirectory path with
    | .error .notFound =>
      match ← createFirst above with
      | .ok () => ensureDirectory path
      | .error e => return .error e
    | result => return result

/-- Makes a directory and those that it lies in. -/
def createDirectories (path : String) : m (Except FileError Unit) :=
  createFirst (ancestors path)

end Files

end Surrogates
