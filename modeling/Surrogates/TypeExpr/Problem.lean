/-
Surrogates.TypeExpr.Problem — why a text is not a type expression of this
library: it is no type at all, or it is a type of a shape that has no tree.
-/

namespace Surrogates.TypeExpr

/-- Why a text has no tree. -/
inductive Problem where
  /-- The text is not a type. -/
  | notAType
  /-- A type that is no path, tuple, slice or array. -/
  | unsupportedShape
  /-- An array whose length is an expression other than an integer literal. -/
  | lengthNotLiteral
  /-- An array whose length does not fit 64 bits. -/
  | lengthTooLarge
  /-- An argument of the path that is neither a type nor a lifetime. -/
  | unsupportedArgument (path : String)
  /-- Arguments on a segment of a path that is not the last. -/
  | misplacedArguments (segment : String)
  deriving DecidableEq, Repr

/-- The problem in words. -/
def Problem.message : Problem → String
  | notAType => "syntax error"
  | unsupportedShape => "only paths, tuples, slices and arrays are supported"
  | lengthNotLiteral => "array length must be an integer literal"
  | lengthTooLarge => "number too large to fit in target type"
  | unsupportedArgument path => "unsupported generic argument in `" ++ path ++ "`"
  | misplacedArguments segment => "unexpected arguments on path segment `" ++ segment ++ "`"

end Surrogates.TypeExpr
