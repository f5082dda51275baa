/-
Surrogates.Grammar.Basic — what the productions of the grammar find, and the
record that ties them together.

The grammar is read for type expressions, so a type is found with its tree.
Other parts, such as the expressions in array lengths, are only recognised:
of them is kept what decides how the text around them may go on.

The productions need one another, so each is a function of `Productions`,
the parsers of the parts that are nested in it. Every production takes a
token or enters a group before it asks for a nested part, so with parts
nested as deep as there are tokens no text is refused for its depth:
`Surrogates.Grammar.Level`.
-/
import Surrogates.Grammar.Parser
import Surrogates.TypeExpr.Basic
import Surrogates.TypeExpr.Problem

namespace Surrogates.Grammar

/-! ## §1 Findings -/

/-- What decides how a text may go on after a type. -/
inductive Shape where
  /-- A path of one segment that no separator leads. -/
  | name
  /-- Any other path that begins with a segment. -/
  | path
  /-- One bound, which stands for a trait object without its keyword. -/
  | bound
  | other
  deriving DecidableEq, Repr

/-- A type as found: its tree or the first problem of it, and its shape. -/
structure TypeReading where
  tree : Except TypeExpr.Problem TypeExpr
  shape : Shape

/-- A type that has no tree. -/
def TypeReading.unsupported (shape : Shape) : TypeReading :=
  ⟨.error .unsupportedShape, shape⟩

/-- Where a bound stands, which decides the forms that it may have. -/
inductive BoundPlace where
  /-- A bound of `impl`, which may name what the type captures, or be constant. -/
  | opaqueType
  /-- A bound of a trait object. -/
  | object
  /-- A bound of a parameter, which may be constant. -/
  | parameter
  deriving DecidableEq, Repr

/-- A bound as recognised. -/
inductive BoundReading where
  | lifetime
  | captures
  | trait
  deriving DecidableEq, Repr

/-- An expression as recognised. -/
inductive ExprReading where
  /-- An integer literal and its value. -/
  | integer (value : Nat)
  /-- Two values compared, which are not compared with a third. -/
  | comparison
  /-- A range, after which no operator can stand. -/
  | range
  /-- A block, a loop, a condition or a match, which can stand as a statement. -/
  | block
  /-- A macro, whose arguments stand in braces or in other brackets. -/
  | invocation (braces : Bool)
  | other
  deriving DecidableEq, Repr

/-- A pattern as recognised. -/
inductive PatternReading where
  /-- A range with one end, which cannot be an item of a slice. -/
  | openRange
  | other
  deriving DecidableEq, Repr

/-! ## §2 Precedence -/

/-- How tightly an operator binds, from the loosest. -/
inductive Precedence where
  | jump
  | assign
  | range
  | either
  | both
  | compare
  | bitOr
  | bitXor
  | bitAnd
  | shift
  | sum
  | product
  | cast
  deriving DecidableEq, Repr

/-- The place of a precedence in the order. -/
def Precedence.rank : Precedence → Nat
  | jump => 0
  | assign => 1
  | range => 2
  | either => 3
  | both => 4
  | compare => 5
  | bitOr => 6
  | bitXor => 7
  | bitAnd => 8
  | shift => 9
  | sum => 10
  | product => 11
  | cast => 12

/-! ## §3 The record -/

/-- The parsers of nested parts. For expressions `braces` says whether braces
after a path are its fields. -/
structure Productions where
  /-- A type, with `true` where bounds may be added with `+`. -/
  type : Bool → Parser TypeReading
  /-- One bound of a type. -/
  bound : BoundPlace → Parser BoundReading
  /-- An expression of operators that bind at least as tightly as the given one. -/
  expr : Bool → Precedence → Parser ExprReading
  /-- An operand with the operators behind it that bind more tightly than the
  given one. -/
  rightSide : Bool → Precedence → Parser Unit
  /-- An operand of an expression. -/
  operand : Bool → Parser ExprReading
  /-- An expression that stands alone, as the value of a case does: where it
  ends with a block, it ends there. -/
  standing : Parser ExprReading
  /-- The statements of a block, its braces taken. -/
  statements : Parser Unit
  /-- A pattern without alternatives. -/
  single : Parser PatternReading
  /-- A pattern with its alternatives, a bar perhaps in front. -/
  pattern : Parser PatternReading
  /-- An item of a module. -/
  item : Parser Unit

/-- Any expression. -/
def Productions.anyExpr (g : Productions) : Parser ExprReading :=
  g.expr true .jump

end Surrogates.Grammar
