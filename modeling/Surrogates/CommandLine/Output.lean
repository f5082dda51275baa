/-
Surrogates.CommandLine.Output — where a product goes.

A plan goes to one file and sources to files below a directory; the
directories they lie in are made. Without a path the product is the text for
standard output.
-/
import Surrogates.CommandLine.Arguments
import Surrogates.CommandLine.Failure
import Surrogates.Generation.Json
import Surrogates.Source.ModuleFile

namespace Surrogates.CommandLine

variable {m : Type → Type} [Monad m] [FileSystem m]

/-- Does an operation on files, whose failure is one of the command. -/
def attempt (failure : FileError → Failure) (operation : m (Except FileError Unit)) :
    ExceptT Failure m Unit := do
  match ← operation with
  | .ok () => return ()
  | .error cause => throw (failure cause)

/-! ## §1 Plans -/

/-- Writes a plan to a file. -/
def writePlan (path text : String) : ExceptT Failure m Unit := do
  match Files.parent? path with
  | some parent => attempt (.creating parent) (Files.createDirectories (m := m) parent)
  | none => pure ()
  attempt (.writing path) (FileSystem.write (m := m) path text)

/-! ## §2 Sources -/

/-- Writes a source file below a directory. -/
def writeSource (directory : String) (file : Source.File) : ExceptT Failure m Unit := do
  let path := Files.join directory file.path
  match Files.parent? path with
  | some parent => attempt (.access parent) (Files.createDirectories (m := m) parent)
  | none => pure ()
  attempt (.access path) (FileSystem.write (m := m) path file.contents)

/-- Writes source files below a directory one after another. -/
def writeEach (directory : String) : List Source.File → ExceptT Failure m Unit
  | [] => return ()
  | file :: rest => do
    writeSource directory file
    writeEach directory rest

/-- Makes a directory and writes source files below it. -/
def writeSources (directory : String) (files : List Source.File) : ExceptT Failure m Unit := do
  attempt (.access directory) (Files.createDirectories (m := m) directory)
  writeEach directory files

/-- Source files as one text, each under its path. -/
def renderSources (files : List Source.File) : String :=
  files.foldl (fun text file => text ++ "// file: " ++ file.path ++ "\n" ++ file.contents ++ "\n") ""

/-! ## §3 Products -/

/-- Writes the product of a generation, and gives what is left for standard
output. -/
def deliver (command : Command) (generation : Generation) : ExceptT Failure m String := do
  match command.product, command.out with
  | .plan, none => return generation.toJson.pretty ++ "\n"
  | .plan, some path => do
    writePlan path generation.toJson.pretty
    return ""
  | .sources, none => return renderSources (Source.files generation)
  | .sources, some directory => do
    writeSources directory (Source.files generation)
    return ""

end Surrogates.CommandLine
