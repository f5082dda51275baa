/-
Surrogates.Grammar.Operand — the operands of expressions.

An operand is an atom with signs in front and with calls, members, indices
and question marks behind. Where `braces` is not set, as in a condition,
braces after a path are no fields of a structure but the block that follows
the condition.
-/
import Surrogates.Grammar.Bound
import Surrogates.Grammar.LiteralScan
import Surrogates.Grammar.Pattern

namespace Surrogates.Grammar

variable (g : Productions)

/-! ## §1 Where an expression may begin -/

/-- Whether an expression may begin here, which tells if a jump has a value. -/
def peekExpr (tokens : List Token) : Bool :=
  (peekAnyWord tokens && !peekWord "as" tokens)
    || peekAnyGroup tokens || peekLiteral tokens || peekLifetime tokens
    || (peek "!" tokens && !peek "!=" tokens)
    || (peek "-" tokens && !peek "-=" tokens && !peek "->" tokens)
    || (peek "*" tokens && !peek "*=" tokens)
    || (peek "|" tokens && !peek "|=" tokens)
    || (peek "&" tokens && !peek "&=" tokens)
    || (peek "<" tokens && !peek "<=" tokens && !peek "<<=" tokens)
    || peek ".." tokens || peek "::" tokens || peek "#" tokens

/-- Whether a range has no upper end: its dots are followed by what ends an
expression or by an operator that begins none. -/
def peekRangeStop (braces : Bool) (tokens : List Token) : Bool :=
  tokens.isEmpty || (peek "." tokens && !peek ".." tokens)
    || (!braces && peekGroup .brace tokens) || peekWord "as" tokens
    || [",", ";", "?", "=>", "=", "+", "/", "%", "^", ">", "<=", "!=", "-=", "*=", "&=", "|=",
      "<<="].any (peek · tokens)

/-- The upper end of a range behind its dots; a closed range has one. -/
def rangeValue (braces closed : Bool) : Parser Unit := do
  if !closed && peekRangeStop braces (← tokens) then pure () else g.rightSide braces .range

/-! ## §2 Lists of expressions -/

/-- Arguments in parentheses. -/
def callArguments : Parser Unit :=
  discard (listIn .paren g.anyExpr)

/-- What stands in brackets: items, or one item and how often it is repeated. -/
def arrayContent : Parser Unit := do
  unless (← tokens).isEmpty do
    let _ ← g.anyExpr
    if ← takeIf ";" then discard g.anyExpr
    else unless (← tokens).isEmpty do
      take ","
      discard (separated g.anyExpr "," List.isEmpty)

/-- A field of a structure and its value; the name of a field may stand for
the value. -/
def fieldValue : Parser Unit := do
  let _ ← outerAttributes g
  let named ← member
  if !named || peek ":" (← tokens) then
    take ":"
    discard g.anyExpr

/-- The fields of a structure, its brace taken; two dots and a value may stand
last. `fuel` bounds their number. -/
def fieldValues : Nat → Parser Unit
  | 0 => fail
  | fuel + 1 => do
    unless (← tokens).isEmpty do
      if ← takeIf ".." then
        unless (← tokens).isEmpty do
          discard g.anyExpr
      else
        fieldValue g
        unless (← tokens).isEmpty do
          take ","
          fieldValues fuel

/-! ## §3 Paths and closures -/

/-- An operand that begins with a path: a macro, a structure or a name. -/
def pathOperand (braces : Bool) : Parser ExprReading := do
  let found ← anyPath g true
  let ahead ← tokens
  if found.any (isInvoked · ahead) then
    return .invocation ((← invocation) == .brace)
  else if braces && peekGroup .brace ahead then
    inside .brace do
      fieldValues g ((← tokens).length + 1)
    return .other
  else
    return .other

/-- A parameter of a closure. -/
def closureParameter : Parser Unit := do
  let _ ← outerAttributes g
  let _ ← single g
  if ← takeIf ":" then discard (g.type true)

/-- A closure: its qualifiers, its parameters between bars, and its value,
which is a block if the type of the value is given. -/
def closure (braces : Bool) : Parser Unit := do
  let _ ← binderIf g
  let _ ← takeWordIf "const"
  let _ ← takeWordIf "static"
  let _ ← takeWordIf "async"
  let _ ← takeWordIf "move"
  take "|"
  let _ ← separated (closureParameter g) "," (peek "|")
  take "|"
  if ← takeIf "->" then
    let _ ← g.type true
    block g
  else discard (g.expr braces .jump)

/-- Whether a closure comes next. -/
def peekClosure (tokens : List Token) : Bool :=
  let after := tokens.drop 1
  peek "|" tokens || peekWordOf ["move", "static"] tokens
    || (peekWord "for" tokens && peekParameters after)
    || (peekWord "const" tokens && !peekGroup .brace after)
    || (peekWord "async" tokens && (peek "|" after || peekWord "move" after))

/-! ## §4 Blocks, conditions and loops -/

/-- A condition, its block, and the blocks of the other cases, its keyword
taken; `fuel` bounds the number of cases. -/
def conditional : Nat → Parser Unit
  | 0 => fail
  | fuel + 1 => do
    let _ ← g.expr false .jump
    block g
    if ← takeWordIf "else" then
      if ← takeWordIf "if" then conditional fuel else block g

/-- A case of a match: its pattern, its guard and its value, which needs a comma
behind it unless it ends with a block or is the last. -/
def matchCase : Parser Unit := do
  let _ ← outerAttributes g
  let _ ← g.pattern
  if ← takeWordIf "if" then discard g.anyExpr
  take "=>"
  let reading ← g.standing
  if reading = .block || (← tokens).isEmpty then discard (takeIf ",") else take ","

/-- A loop over the values of an expression, its keyword taken. -/
def forLoop : Parser Unit := do
  let _ ← g.pattern
  takeWord "in"
  let _ ← g.expr false .jump
  describedBlock g

/-- A loop as long as a condition holds, its keyword taken. -/
def whileLoop : Parser Unit := do
  let _ ← g.expr false .jump
  describedBlock g

/-- A loop or block behind a label. -/
def labeled : Parser Unit := do
  lifetime
  take ":"
  if ← takeWordIf "while" then whileLoop g
  else if ← takeWordIf "for" then forLoop g
  else
    let _ ← takeWordIf "loop"
    describedBlock g

/-- Whether an operand comes next that ends with a block and so can stand as a
statement. -/
def peekBlockLike (tokens : List Token) : Bool :=
  let after := tokens.drop 1
  peekWordOf ["if", "while", "loop", "match", "unsafe"] tokens
    || (peekWord "for" tokens && !peekParameters after)
    || (peekWordOf ["try", "const"] tokens && peekGroup .brace after)
    || peekGroup .brace tokens || peekLifetime tokens

/-- A match, its keyword taken. -/
def matchOperand : Parser Unit := do
  let _ ← g.expr false .jump
  inside .brace do
    innerAttributes g
    many (matchCase g)

/-- An operand that ends with a block. -/
def blockLike : Parser Unit := do
  if ← takeWordIf "if" then conditional g ((← tokens).length + 1)
  else if ← takeWordIf "while" then whileLoop g
  else if ← takeWordIf "for" then forLoop g
  else if ← takeWordIf "match" then matchOperand g
  else if ← takeWordIf "try" then block g
  else if peekLifetime (← tokens) then labeled g
  else
    if peekWordOf ["loop", "unsafe", "const"] (← tokens) then advance 1
    describedBlock g

/-! ## §5 Jumps -/

/-- The value of a jump, if it has one. -/
def valueIf : Parser Unit := do
  if peekExpr (← tokens) then discard g.anyExpr

/-- A break from its label on, its keyword taken. A labelled loop or block as
its value needs parentheses. -/
def breakOperand (braces : Bool) : Parser Unit := do
  let ahead ← tokens
  if peekLifetime ahead && peek ":" (ahead.drop 1) then
    let _ ← g.anyExpr
    fail
  else
    lifetimeIf
    let ahead ← tokens
    if peekExpr ahead && (braces || !peekGroup .brace ahead) then discard g.anyExpr

/-! ## §6 Atoms -/

/-- Whether a block behind `async` comes next. -/
def peekAsyncBlock (tokens : List Token) : Bool :=
  let after := tokens.drop 1
  peekWord "async" tokens
    && (peekGroup .brace after || (peekWord "move" after && peekGroup .brace (after.drop 1)))

/-- Whether an operand comes next that begins with a path. -/
def peekPathOperand (tokens : List Token) : Bool :=
  let after := tokens.drop 1
  peekIdentifier tokens || peekWordOf pathWords tokens || peek "::" tokens || peek "<" tokens
    || (peekWord "try" tokens && (peek "!" after || peek "::" after))

/-- An operand that begins with a keyword or a sign and is no block. -/
def keywordOperand (braces : Bool) : Parser ExprReading := do
  let ahead ← tokens
  if peekWord "break" ahead then
    advance 1
    breakOperand g braces
    return .other
  else if peekWord "continue" ahead then
    advance 1
    lifetimeIf
    return .other
  else if peekWordOf ["return", "yield"] ahead then
    advance 1
    valueIf g
    return .other
  else if peekWord "become" ahead then
    advance 1
    let _ ← g.anyExpr
    return .other
  else if peekWord "let" ahead then
    advance 1
    let _ ← g.pattern
    take "="
    let _ ← g.expr braces .compare
    return .other
  else if peekWord "_" ahead then
    advance 1
    return .other
  else
    rangeValue g braces (← rangeDots)
    return .range

/-- An operand without signs in front and parts behind. -/
def atom (braces : Bool) : Parser ExprReading := do
  let ahead ← tokens
  match ahead with
  | .literal (.integer n _) :: _ =>
    advance 1
    return .integer n
  | _ =>
    if peekLiteral ahead then
      literal
      return .other
    else if peekAsyncBlock ahead then
      advance 1
      let _ ← takeWordIf "move"
      block g
      return .other
    else if peekClosure ahead then
      closure g braces
      return .other
    else if peekWord "builtin" ahead && peek "#" (ahead.drop 1) then
      advance 2
      identifier
      if peekGroup .paren (← tokens) then advance 1 else fail
      return .other
    else if peekPathOperand ahead then pathOperand g braces
    else if peekGroup .paren ahead then
      callArguments g
      return .other
    else if peekGroup .bracket ahead then
      inside .bracket (arrayContent g)
      return .other
    else if peekBlockLike ahead then
      blockLike g
      return .block
    else keywordOperand g braces

/-! ## §7 Parts behind -/

/-- The numbers of two fields that a number with a point writes, `x.0.1`, its
parts separated by the point. A point at its end belongs to what follows; the
answer tells whether there is one. -/
def fieldNumbers (digits : List Char) : Parser Bool := do
  let first := digits.takeWhile (· != '.')
  let second := digits.drop (first.length + 1)
  part first
  if second.isEmpty then
    return first.length < digits.length
  else
    part second
    return false
where
  /-- A part, which is the number of a field. -/
  part (digits : List Char) : Parser Unit :=
    match LiteralScan.scan? digits with
    | some (.integer value suffixed, []) => fieldNumber value suffixed
    | _ => fail

/-- A member behind its point: a field, a method with its arguments, or the
wait for a value. -/
def namedMember : Parser Unit := do
  if ← takeWordIf "await" then pure ()
  else
    let named ← member
    if named && peek "::" (← tokens) then
      advance 2
      let _ ← arguments g
      callArguments g
    else if named && peekGroup .paren (← tokens) then callArguments g

/-- What stands behind the point of a member. -/
def memberAccess : Parser Unit := do
  match ← tokens with
  | .literal (.float digits) :: _ =>
    advance 1
    if ← fieldNumbers digits then namedMember g
  | _ => namedMember g

/-- Calls, members, indices and question marks behind an operand; `fuel` bounds
their number. -/
def trailers : Nat → ExprReading → Parser ExprReading
  | 0, _ => fail
  | fuel + 1, found => do
    let ahead ← tokens
    if peekGroup .paren ahead then
      callArguments g
      trailers fuel .other
    else if peekGroup .bracket ahead then
      inside .bracket (discard g.anyExpr)
      trailers fuel .other
    else if found = .range then return found
    else if peek "." ahead && !peek ".." ahead then
      advance 1
      memberAccess g
      trailers fuel .other
    else if peek "?" ahead then
      advance 1
      trailers fuel .other
    else return found

/-- Takes the parts behind an operand. -/
def withTrailers (found : ExprReading) : Parser ExprReading := do
  trailers g ((← tokens).length + 1) found

/-! ## §8 Operands -/

/-- The rest of a reference behind its sign: a mutable one, one to a place
without a look at it, or a plain one. -/
def reference (braces : Bool) : Parser Unit := do
  let ahead ← tokens
  let raw := peekWord "raw" ahead && peekWordOf ["mut", "const"] (ahead.drop 1)
  if raw then advance 2 else discard (takeWordIf "mut")
  discard (g.operand braces)

/-- An operand: attributes, signs in front, and parts behind. A range that
begins with its dots has no attributes. -/
def operand (braces : Bool) : Parser ExprReading := do
  let described ← outerAttributes g
  let ahead ← tokens
  if peek "&" ahead then
    advance 1
    reference g braces
    return .other
  else if peek "*" ahead || peek "!" ahead || peek "-" ahead then
    advance 1
    let _ ← g.operand braces
    return .other
  else
    let found ← withTrailers g (← atom g braces)
    if described && found = .range then fail else return found

end Surrogates.Grammar
