/-
Surrogates.CommandLine.Run — a call of the program from its arguments to its
outcome.
-/
import Surrogates.CommandLine.Input
import Surrogates.CommandLine.Output

namespace Surrogates.CommandLine

variable {m : Type → Type} [Monad m] [FileSystem m]

/-! ## §1 Outcomes -/

/-- What a call leaves behind, files apart. -/
structure Outcome where
  exitCode : Nat
  stdout : String
  stderr : String
  deriving DecidableEq, Repr

/-- The name and the version of the program. -/
def versionText : String := "surrogate-gen 0.1.0\n"

/-- How to call the program. -/
def usageText : String :=
  "Usage: surrogate-gen [-v | -q] <plan|rust> --catalog <FILE>... --config <FILE>...\n"
    ++ "         [--surrogate-suffix <NAME>] [--serializer-suffix <NAME>]\n"
    ++ "         [--module-suffix <NAME>] [-o <PATH>] [--no-op]\n"

/-- The outcome of a call that asks for no command. -/
def Stop.outcome : Stop → Outcome
  | misuse => ⟨2, "", usageText⟩
  | help => ⟨0, usageText, ""⟩
  | version => ⟨0, versionText, ""⟩

/-- The outcome of a failure, after a text was reported already. -/
def Failure.outcome (stdout reported : String) (failure : Failure) : Outcome :=
  ⟨1, stdout, reported ++ failure.report⟩

/-! ## §2 Reports -/

/-- The heading of a diagnostic. -/
def label : Severity → String
  | .warning => "warning"
  | .error => "error"

/-- The lines on the diagnostics and deferred entries of a generation. -/
def reportLines (generation : Generation) : List String :=
  generation.diagnostics.map (fun d => label d.finding.severity ++ ": " ++ d.message)
    ++ generation.deferred.map fun d => "deferred: " ++ d.message

/-! ## §3 Calls -/

/-- The outcome of a command. What could be generated is delivered also where
entries are deferred, and then the command fails. -/
def runCommand (command : Command) : m Outcome := do
  if command.idle then return ⟨0, "", ""⟩
  match ← (generate command).run with
  | .error failure => return failure.outcome "" ""
  | .ok generation =>
    let reported := Source.joinLines (reportLines generation)
    match ← (deliver command generation).run with
    | .error failure => return failure.outcome "" reported
    | .ok stdout =>
      if generation.isResolved then return ⟨0, stdout, reported⟩
      else return (Failure.incomplete generation.deferred).outcome stdout reported

/-- The outcome of a call. -/
def run (arguments : List String) : m Outcome :=
  match parse arguments with
  | .error stop => return stop.outcome
  | .ok command => runCommand command

end Surrogates.CommandLine
