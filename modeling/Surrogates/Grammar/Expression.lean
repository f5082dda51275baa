/-
Surrogates.Grammar.Expression — expressions, as they stand in the length of
an array.

An expression is an operand followed by operators and operands. An operator
takes as its right side what binds more tightly, so the order of the
operators decides where two rules apply: comparisons do not chain
(`a < b < c`), and a range is not the left side of an operator.
-/
import Surrogates.Grammar.Operand

namespace Surrogates.Grammar

variable (g : Productions)

/-! ## §1 Operators -/

/-- The operators between two operands and their precedences; of two that begin
alike the longer one stands first. -/
def binaryOperators : List (String × Precedence) :=
  [("+=", .assign), ("-=", .assign), ("*=", .assign), ("/=", .assign), ("%=", .assign),
   ("^=", .assign), ("&=", .assign), ("|=", .assign), ("<<=", .assign), (">>=", .assign),
   ("&&", .both), ("||", .either), ("<<", .shift), (">>", .shift), ("==", .compare),
   ("<=", .compare), ("!=", .compare), (">=", .compare), ("+", .sum), ("-", .sum),
   ("*", .product), ("/", .product), ("%", .product), ("^", .bitXor), ("&", .bitAnd),
   ("|", .bitOr), ("<", .compare), (">", .compare)]

/-- The operator between two operands that comes next. -/
def binaryOperator? (tokens : List Token) : Option (String × Precedence) :=
  binaryOperators.find? (peek ·.1 tokens)

/-- Whether a single equals sign comes next. -/
def peekAssign (tokens : List Token) : Bool :=
  peek "=" tokens && !peek "=>" tokens

/-- The precedence of the operator that comes next, the loosest if none does. -/
def nextPrecedence (tokens : List Token) : Precedence :=
  match binaryOperator? tokens with
  | some (_, precedence) => precedence
  | none =>
    if peekAssign tokens then .assign
    else if peek ".." tokens then .range
    else if peekWord "as" tokens then .cast
    else .jump

/-- Whether parts of an operand come next, which cannot stand behind a cast. -/
def peekTrailer (tokens : List Token) : Bool :=
  (peek "." tokens && !peek ".." tokens) || peek "?" tokens || peekGroup .bracket tokens
    || peekGroup .paren tokens

/-- A cast behind its left side. -/
def castType : Parser Unit := do
  takeWord "as"
  let _ ← g.type false
  if peekTrailer (← tokens) then fail

/-- The operators behind a left side that bind at least as tightly as `least`,
with their right sides; `fuel` bounds their number. -/
def operatorsWithin (braces : Bool) (least : Precedence) :
    Nat → ExprReading → Parser ExprReading
  | 0, _ => fail
  | fuel + 1, left => do
    let ahead ← tokens
    if left = .range then return left
    match binaryOperator? ahead with
    | some (sign, precedence) =>
      if precedence.rank < least.rank then return left
      if precedence = .compare ∧ left = .comparison then fail
      advance sign.length
      g.rightSide braces precedence
      operatorsWithin braces least fuel (if precedence = .compare then .comparison else .other)
    | none =>
      if least.rank ≤ Precedence.assign.rank ∧ peekAssign ahead then
        advance 1
        g.rightSide braces .assign
        operatorsWithin braces least fuel .other
      else if least.rank ≤ Precedence.range.rank ∧ peek ".." ahead then
        rangeValue g braces (← rangeDots)
        operatorsWithin braces least fuel .range
      else if peekWord "as" ahead then
        castType g
        operatorsWithin braces least fuel .other
      else return left

/-- The operators behind a left side that bind at least as tightly as `least`,
with their right sides. -/
def operators (braces : Bool) (least : Precedence) (left : ExprReading) : Parser ExprReading := do
  operatorsWithin g braces least ((← tokens).length + 1) left

/-! ## §2 Right sides -/

/-- Whether the operator that comes next belongs to the right side of one of the
given precedence: it binds more tightly, or both assign. -/
def continues (precedence next : Precedence) : Bool :=
  precedence.rank < next.rank || (precedence == .assign && next == .assign)

/-- The operators on the right side of one of the given precedence; `fuel` bounds
their number. Where nothing is taken, a range is the left side, which ends
it. -/
def rightSideWithin (braces : Bool) (precedence : Precedence) : Nat → ExprReading → Parser Unit
  | 0, _ => fail
  | fuel + 1, right => do
    let ahead ← tokens
    let next := nextPrecedence ahead
    if continues precedence next then
      let right ← operators g braces next right
      if (← tokens).length < ahead.length then rightSideWithin braces precedence fuel right

/-- The right side of an operator of the given precedence. -/
def rightSide (braces : Bool) (precedence : Precedence) : Parser Unit := do
  let first ← operand g braces
  rightSideWithin g braces precedence ((← tokens).length + 1) first

/-! ## §3 Expressions -/

/-- An expression of operators that bind at least as tightly as `least`. -/
def expr (braces : Bool) (least : Precedence) : Parser ExprReading := do
  let first ← operand g braces
  operators g braces least first

/-- An expression that stands alone. If it begins with a block, only a point or
a question mark behind the block goes on with it. -/
def standing : Parser ExprReading := do
  let _ ← outerAttributes g
  if peekBlockLike (← tokens) then
    blockLike g
    let ahead ← tokens
    if (peek "." ahead && !peek ".." ahead) || peek "?" ahead then
      operators g true .jump (← withTrailers g .block)
    else return .block
  else expr g true .jump

end Surrogates.Grammar
