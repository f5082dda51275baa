/-
Surrogates.Execution.Failure — why a value was not encoded or decoded.
-/
import Surrogates.Json.Writer
import Surrogates.TypeName.Basic

namespace Surrogates.Execution

/-- What a serializer expects of a value. -/
inductive Shape where
  | object
  | array
  | stringKey
  deriving DecidableEq, Repr

/-- The expectation in words. -/
def Shape.message : Shape → String
  | object => "an object"
  | array => "an array"
  | stringKey => "a string key"

/-- Why a value was not encoded or decoded. -/
inductive Failure where
  /-- No serializer has the name. -/
  | unknownSerializer (name : TypeName)
  /-- No serializer is registered for the type. -/
  | notRegistered (type : TypeName)
  /-- A value of another shape than a type has. -/
  | shape (type : TypeName) (expected : Shape) (found : Json)
  /-- An object without a field that may not be null. -/
  | missingField (type : TypeName) (field : String)
  /-- A hand-written serializer refused the value, in its own words. -/
  | refused (message : String)
  deriving Repr

/-- The failure in words. -/
def Failure.message : Failure → String
  | unknownSerializer name => "no serializer named `" ++ name.text ++ "`"
  | notRegistered type => "no serializer registered for `" ++ type.text ++ "`"
  | shape type expected found =>
    "`" ++ type.text ++ "`: expected " ++ expected.message ++ ", found " ++ found.render
  | missingField type field => "`" ++ type.text ++ "`: missing field `" ++ field ++ "`"
  | refused message => message

/-- What a run gives. -/
abbrev Result := Except Failure

/-- The two ways to run a serializer. -/
inductive Direction where
  | encode
  | decode
  deriving DecidableEq, Repr

end Surrogates.Execution
