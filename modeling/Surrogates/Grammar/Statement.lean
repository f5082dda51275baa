/-
Surrogates.Grammar.Statement — the statements of blocks, as they stand in
the length of an array.

A statement is a binding, an item, a macro with its arguments in braces, or
an expression. An expression that does not end with a block needs a
semicolon, unless it is the last of its block.
-/
import Surrogates.Grammar.Expression
import Surrogates.Grammar.Item

namespace Surrogates.Grammar

variable (g : Productions)

/-! ## §1 Bindings -/

/-- Whether a group in braces is the last of some tokens of which `rest` is
left. -/
def endsWithBraces (tokens rest : List Token) : Bool :=
  match (tokens.take (tokens.length - rest.length)).getLast? with
  | some (.group .brace _) => true
  | _ => false

/-- A binding from its pattern on. A block for the case that the pattern does
not match stands behind a value that does not end with braces. -/
def binding : Parser Unit := do
  let _ ← single g
  if ← takeIf ":" then discard (g.type true)
  if ← takeIf "=" then
    let ahead ← tokens
    let _ ← g.anyExpr
    let rest ← tokens
    if !endsWithBraces ahead rest && peekWord "else" rest then
      advance 1
      block g
  take ";"

/-! ## §2 Items among statements -/

/-- The words that begin an item wherever they stand. -/
def itemWords : List String :=
  ["pub", "extern", "use", "fn", "mod", "type", "struct", "enum", "trait", "impl", "macro"]

/-- Whether `const` begins an item here, and no block or closure. -/
def peekConstItem (tokens : List Token) : Bool :=
  let after := tokens.drop 1
  peekWord "const" tokens
    && !(peekGroup .brace after || peekWordOf ["static", "move"] after || peek "|" after
      || (peekWord "async" after && !peekWordOf ["unsafe", "extern", "fn"] (after.drop 1)))

/-- Whether an item comes next. -/
def peekItem (tokens : List Token) : Bool :=
  let after := tokens.drop 1
  peekWordOf itemWords tokens
    || (peekWord "crate" tokens && !peek "::" after)
    || (peekWord "static" tokens && (peekWord "mut" after || peekIdentifier after))
    || peekConstItem tokens
    || (peekWord "unsafe" tokens && !peekGroup .brace after)
    || (peekWord "async" tokens && peekWordOf ["unsafe", "extern", "fn"] after)
    || (peekWord "union" tokens && peekIdentifier after)
    || (peekWord "auto" tokens && peekWord "trait" after)
    || (peekWord "default" tokens && peekWordOf ["unsafe", "impl"] after)

/-- What a statement that begins with the path of a macro is. -/
inductive MacroStatement where
  /-- An item, because the macro names what it defines. -/
  | item
  /-- A statement of its own, because the arguments stand in braces and nothing
  goes on behind them. -/
  | braced
  | expression
  deriving DecidableEq, Repr

/-- What a macro behind a path is, from its exclamation mark on. -/
def macroStatement (tokens : List Token) : MacroStatement :=
  let after := tokens.drop 1
  let behindGroup := tokens.drop 2
  if !peek "!" tokens then .expression
  else if peekIdentifier after || peekWord "try" after then .item
  else if peekGroup .brace after
      && !((peek "." behindGroup && !peek ".." behindGroup) || peek "?" behindGroup) then
    .braced
  else .expression

/-- What the statement is that comes next. -/
def peekMacroStatement (tokens : List Token) : MacroStatement :=
  match behind plainPath tokens with
  | some rest => macroStatement rest
  | none => .expression

/-! ## §3 Statements -/

/-- An expression as a statement; the answer tells whether nothing more is
needed behind it. -/
def exprStatement : Parser Bool := do
  let reading ← standing g
  if ← takeIf ";" then return true
  else return reading == .block || reading == .invocation true

/-- A statement; the answer tells whether another may follow. -/
def statement : Parser Bool := do
  let _ ← outerAttributes g
  let ahead ← tokens
  match peekMacroStatement ahead with
  | .braced =>
    plainPath
    let _ ← invocation
    let _ ← takeIf ";"
    return true
  | found =>
    if ← takeWordIf "let" then
      binding g
      return true
    else if peekItem ahead || found == .item then
      describedItem g
      return true
    else exprStatement g

/-- The statements of a block, of which `fuel` bounds the number. -/
def statementsWithin : Nat → Parser Unit
  | 0 => fail
  | fuel + 1 => do
    if ← takeIf ";" then statementsWithin fuel
    else unless (← tokens).isEmpty do
      let complete ← statement g
      if complete then statementsWithin fuel
      else unless (← tokens).isEmpty do
        fail

/-- The statements of a block, its braces taken. -/
def statements : Parser Unit := do
  statementsWithin g ((← tokens).length + 1)

end Surrogates.Grammar
