/-
Surrogates.NameError — names that are refused, and what they were to name.
-/

namespace Surrogates

/-- What a name is for. -/
inductive NameKind where
  | type
  | surrogateSuffix
  | serializerSuffix
  | moduleSuffix
  | entry
  | field
  deriving DecidableEq, Repr

/-- What a name is for, in words. -/
def NameKind.message : NameKind → String
  | type => "type"
  | surrogateSuffix => "surrogate suffix"
  | serializerSuffix => "serializer suffix"
  | moduleSuffix => "module suffix"
  | entry => "configuration entry"
  | field => "field"

/-- A name that is refused. -/
structure NameError where
  kind : NameKind
  name : String
  deriving DecidableEq, Repr

/-- The refusal in words. -/
def NameError.message (e : NameError) : String :=
  "invalid " ++ e.kind.message ++ " name `" ++ e.name ++ "`"

end Surrogates
