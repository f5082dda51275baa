/-
Surrogates.Grammar.Generics — the parameters that a type, a function or a
bound introduces, and the conditions on them.

Parameters stand in angle brackets, and so do types in front of a path;
`peekParameters` tells the two apart by the tokens behind the bracket.
-/
import Surrogates.Grammar.Path

namespace Surrogates.Grammar

variable (g : Productions)

/-! ## §1 Parameters -/

/-- The lifetimes behind a lifetime and a colon, up to a stop. -/
def lifetimeBounds (stop : List Token → Bool) : Parser Unit :=
  discard (joined lifetime "+" stop)

/-- A parameter that is a lifetime, its name not yet taken. -/
def lifetimeParameter : Parser Unit := do
  lifetime
  if ← takeIf ":" then
    lifetimeBounds fun ahead => ahead.isEmpty || peek "," ahead || peek ">" ahead

/-- A parameter that is a type, its name not yet taken. -/
def typeParameter : Parser Unit := do
  identifier
  if ← takeIf ":" then
    discard (joined (g.bound .parameter) "+" fun ahead =>
      ahead.isEmpty || peek "," ahead || peek ">" ahead || peek "=" ahead)
  if ← takeIf "=" then discard (g.type true)

/-- A parameter that is a constant, from its keyword on. -/
def constParameter : Parser Unit := do
  takeWord "const"
  identifier
  take ":"
  let _ ← g.type true
  if ← takeIf "=" then constant g

/-- A parameter; one without a name only where `unnamed` says so. -/
def parameter (unnamed : Bool) : Parser Unit := do
  let _ ← outerAttributes g
  let ahead ← tokens
  if peekLifetime ahead then lifetimeParameter
  else if peekIdentifier ahead then typeParameter g
  else if peekWord "const" ahead then constParameter g
  else if unnamed && peekWord "_" ahead then advance 1
  else fail

/-- Parameters in angle brackets. -/
def parameters (unnamed : Bool) : Parser Unit := do
  take "<"
  let _ ← separated (parameter g unnamed) "," (peek ">")
  take ">"

/-- The parameters of an item, if it has any. -/
def genericsIf : Parser Unit := do
  if peek "<" (← tokens) then parameters g true

/-- Whether parameters in angle brackets come next, and not a type in front of
a path. -/
def peekParameters (tokens : List Token) : Bool :=
  let first := tokens.drop 1
  let second := tokens.drop 2
  peek "<" tokens
    && (peek ">" first || peek "#" first || peekWord "const" first
      || ((peekLifetime first || peekIdentifier first)
        && (peek ">" second || peek "," second || peek "=" second
          || (peek ":" second && !peek "::" second))))

/-- The parameters of a bound or a function, `for<…>`, if they come next; the
answer tells whether they do. -/
def binderIf : Parser Bool := do
  if ← takeWordIf "for" then
    parameters g false
    return true
  else
    return false

/-! ## §2 Conditions -/

/-- Whether a list of conditions, or of bounds in one, ends here. -/
def peekConditionEnd (tokens : List Token) : Bool :=
  tokens.isEmpty || peekGroup .brace tokens || peek "," tokens || peek ";" tokens
    || (peek ":" tokens && !peek "::" tokens) || peek "=" tokens

/-- A condition: a lifetime or a type, and its bounds. -/
def condition : Parser Unit := do
  let ahead ← tokens
  if peekLifetime ahead && peek ":" (ahead.drop 1) then
    advance 2
    lifetimeBounds fun ahead => peekConditionEnd ahead || peek ":" ahead
  else
    let _ ← binderIf g
    let _ ← g.type true
    take ":"
    discard (joined (g.bound .parameter) "+" peekConditionEnd)

/-- The conditions of an item, `where …`, if it has any; the answer tells
whether it has. -/
def whereIf : Parser Bool := do
  if ← takeWordIf "where" then
    if peekParameters (← tokens) then fail
    let _ ← joined (condition g) "," peekConditionEnd
    return true
  else
    return false

end Surrogates.Grammar
