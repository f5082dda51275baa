/-
Surrogates.TypeExpr.Parse — type expressions from text.

A text has to be a type as a whole before the shape of the type matters: a
text that is no type anywhere is refused for that.
-/
import Surrogates.Grammar.Level
import Surrogates.Grammar.Scan

namespace Surrogates.TypeExpr

/-- The problem of a text that is no type. A field whose number is too large is
reported like a length that is. -/
def Problem.ofFault : Grammar.Fault → Problem
  | .malformed => .notAType
  | .indexTooLarge => .lengthTooLarge

/-- The tree of a text, or why it has none. -/
def parse (text : String) : Except Problem TypeExpr :=
  match Grammar.Scan.tokens? text.toList with
  | none => .error .notAType
  | some tokens =>
    match Grammar.typeOf tokens with
    | .ok reading => reading.tree
    | .error fault => .error (.ofFault fault)

end Surrogates.TypeExpr
