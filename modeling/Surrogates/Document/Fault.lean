/-
Surrogates.Document.Fault — what can be wrong with a JSON document.

Either the text is no JSON as far as it was read, or a value does not fit
what is read at its place. A misfit is reported with the path from the root
of the document to that place.
-/
import Surrogates.Json.Number
import Surrogates.Json.Writer
import Surrogates.Text.Quoted

namespace Surrogates.Document

/-! ## §1 Paths -/

/-- A step from a value to a part of it. -/
inductive Step where
  | index (i : Nat)
  | key (name : String)
  deriving DecidableEq, Repr

/-- The way from the root of a document to a part of it. -/
abbrev Path := List Step

/-- The text of a path behind its first step. -/
def renderSteps : Path → String
  | [] => ""
  | .index i :: rest => "[" ++ toString i ++ "]" ++ renderSteps rest
  | .key name :: rest => "." ++ name ++ renderSteps rest

/-- The text of a path: a point for the root, else indices in brackets and
keys with points between them. -/
def renderPath : Path → String
  | [] => "."
  | .key name :: rest => name ++ renderSteps rest
  | .index i :: rest => renderSteps (.index i :: rest)

/-! ## §2 Misfits -/

/-- The kind of value found where another was expected. -/
inductive Found where
  | null
  | bool (value : Bool)
  | number (value : Json.Number)
  | string (value : String)
  | sequence
  | map
  deriving DecidableEq, Repr

/-- The kind of value in words. -/
def Found.message : Found → String
  | null => "null"
  | bool value => "boolean `" ++ toString value ++ "`"
  | number (.integer n) => "integer `" ++ toString n ++ "`"
  | number (.real x) => "floating point `" ++ x.render ++ "`"
  | string value => "string " ++ Text.quoted value
  | sequence => "sequence"
  | map => "map"

/-- What can be expected of a value. -/
inductive Expected where
  | string
  | boolean
  | sequence
  | unit
  | record (name : String)
  deriving DecidableEq, Repr

/-- The expectation in words. -/
def Expected.message : Expected → String
  | string => "a string"
  | boolean => "a boolean"
  | sequence => "a sequence"
  | unit => "unit"
  | record name => "struct " ++ name

/-- Why a value does not fit. -/
inductive Misfit where
  | wrongType (found : Found) (expected : Expected)
  /-- A record written as an array that ends before its required fields. -/
  | tooShort (length : Nat) (record : String) (fields : Nat)
  /-- A record written as an array that goes on behind its last field. -/
  | tooLong
  | missingField (name : String)
  | duplicateField (name : String)
  | unknownField (name : String) (known : List String)
  | unknownVariant (name : String) (known : List String)
  /-- A text that its own reader refuses, with that reader's words. -/
  | refused (message : String)
  deriving DecidableEq, Repr

/-- Names in backquotes, with commas between them. -/
def quoteNames (names : List String) : String :=
  ", ".intercalate (names.map fun name => "`" ++ name ++ "`")

/-- The misfit in words. -/
def Misfit.message : Misfit → String
  | wrongType found expected =>
    "invalid type: " ++ found.message ++ ", expected " ++ expected.message
  | tooShort length record fields =>
    "invalid length " ++ toString length ++ ", expected struct " ++ record ++ " with "
      ++ toString fields ++ (if fields = 1 then " element" else " elements")
  | tooLong => "trailing characters"
  | missingField name => "missing field `" ++ name ++ "`"
  | duplicateField name => "duplicate field `" ++ name ++ "`"
  | unknownField name known =>
    "unknown field `" ++ name ++ "`, expected one of " ++ quoteNames known
  | unknownVariant name known =>
    "unknown variant `" ++ name ++ "`, expected one of " ++ quoteNames known
  | refused message => message

/-! ## §3 Faults -/

/-- What is wrong with a document. -/
inductive Fault where
  | malformed
  | misfit (path : Path) (cause : Misfit)
  deriving DecidableEq, Repr

/-- The fault in words, for a document of the given origin. -/
def Fault.message (origin : String) : Fault → String
  | malformed => origin ++ ": JSON syntax error"
  | misfit path cause =>
    origin ++ ": at JSON path " ++ renderPath path ++ " → " ++ cause.message

/-- A fault of a part, seen from the value that the step leads from. -/
def Fault.within (step : Step) : Fault → Fault
  | malformed => malformed
  | misfit path cause => .misfit (step :: path) cause

end Surrogates.Document
