/-
Surrogates.CommandLine.Failure — why a command fails, and how it is reported.
-/
import Surrogates.Configuration.Document
import Surrogates.Files.System
import Surrogates.Generation.Report

namespace Surrogates.CommandLine

/-- Why a command fails. -/
inductive Failure where
  /-- An input or a source file is out of reach. -/
  | access (path : String) (cause : FileError)
  /-- The directory of the plan cannot be made. -/
  | creating (path : String) (cause : FileError)
  /-- The plan cannot be written. -/
  | writing (path : String) (cause : FileError)
  | fault (origin : String) (fault : Document.Fault)
  | name (error : NameError)
  /-- A pattern matches no path, or is none. -/
  | noInput (pattern : String)
  /-- Entries are still deferred. -/
  | incomplete (deferred : List Deferral)
  deriving DecidableEq, Repr

namespace Failure

/-- The failure in words. -/
def message : Failure → String
  | access path cause => "failed to read " ++ path ++ ": " ++ cause.message
  | creating path _ => "creating " ++ path
  | writing path _ => "writing " ++ path
  | fault origin f => f.message origin
  | name e => e.message
  | noInput pattern => "no input matched `" ++ pattern ++ "`"
  | incomplete _ => "generation incomplete"

/-- What the failure goes back to, in words. -/
def cause? : Failure → Option String
  | access _ cause => some cause.message
  | creating _ cause => some cause.message
  | writing _ cause => some cause.message
  | incomplete deferred => some (unresolvedMessage deferred)
  | fault _ _ => none
  | name _ => none
  | noInput _ => none

/-- A text whose lines are moved to the right. -/
def indent (text : String) : String :=
  "    " ++ String.ofList (text.toList.flatMap fun c =>
    if c = '\n' then ['\n', ' ', ' ', ' ', ' '] else [c])

/-- The report of the failure. -/
def report (failure : Failure) : String :=
  "Error: " ++ failure.message ++ "\n" ++
    (match failure.cause? with
      | some cause => "\nCaused by:\n" ++ indent cause ++ "\n"
      | none => "")

end Failure

end Surrogates.CommandLine
