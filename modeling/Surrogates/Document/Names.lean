/-
Surrogates.Document.Names — names and types in documents: strings that have
to be names of types, or type expressions.
-/
import Surrogates.Document.Reader
import Surrogates.NameError
import Surrogates.TypeExpr.Parse

namespace Surrogates

/-- Why a text is no type expression, in words. -/
def TypeExpr.Problem.report (source : String) (problem : TypeExpr.Problem) : String :=
  "invalid type expression `" ++ source ++ "`: " ++ problem.message

namespace Document

/-- Reads the name of a type. -/
def typeName : Reader TypeName :=
  parsed fun text =>
    match TypeName.parse? text with
    | some name => .ok name
    | none => .error (NameError.message ⟨.type, text⟩)

/-- Reads a type expression. -/
def typeExpr : Reader TypeExpr :=
  parsed fun text => (TypeExpr.parse text).mapError (·.report text)

end Document

end Surrogates
