/-
Surrogates.Grammar.Bound — bounds on types, and the types made of them.

A bound is a lifetime or a trait, perhaps in parentheses, with `?`, with
parameters of its own, `for<…>`, or constant. Only in a bound may a path
have arguments in parentheses.
-/
import Surrogates.Grammar.Generics

namespace Surrogates.Grammar

variable (g : Productions)

/-! ## §1 One bound -/

/-- The type behind an arrow, if one comes next; with `plus` bounds may be
added to it. -/
def returnType (plus : Bool) : Parser Unit := do
  if ← takeIf "->" then discard (g.type plus)

/-- Whether arguments in parentheses come next, perhaps behind a separator. -/
def peekParenthesized (tokens : List Token) : Bool :=
  peekGroup .paren tokens || (peek "::" tokens && peekGroup .paren (tokens.drop 2))

/-- Arguments in parentheses and the type behind their arrow. -/
def parenthesized : Parser Unit := do
  let _ ← takeIf "::"
  let _ ← listIn .paren (g.type true)
  returnType g false

/-- The mark of a bound that is constant, `const` or `[const]`, if it comes
next; a trait object has none. -/
def constMarkIf (place : BoundPlace) : Parser Unit := do
  let ahead ← tokens
  if peekGroup .bracket ahead then
    inside .bracket (takeWord "const")
    if place = .object then fail
  else if peekWord "const" ahead then
    advance 1
    if place = .object then fail

/-- A trait as a bound. It has no parameters of its own beside a `?`. -/
def trait (place : BoundPlace) : Parser Unit := do
  let binder ← binderIf g
  constMarkIf place
  let maybe ← takeIf "?"
  let laterBinder ← if maybe && !binder then binderIf g else pure false
  let found ← path g false
  if found.endsBare && peekParenthesized (← tokens) then parenthesized g
  if maybe && (binder || laterBinder) then fail

/-- A name that a type captures: a lifetime or a parameter. -/
def capturedName : Parser Unit := do
  if peekLifetime (← tokens) then lifetime else identifierOr ["Self"]

/-- What a type captures, `use<…>`. -/
def captures : Parser Unit := do
  takeWord "use"
  take "<"
  let _ ← separated capturedName "," (peek ">")
  take ">"

/-- One bound. -/
def bound (place : BoundPlace) : Parser BoundReading := do
  let ahead ← tokens
  if peekLifetime ahead then
    lifetime
    return .lifetime
  else if peekWord "use" ahead then
    captures
    if place = .opaqueType then return .captures else fail
  else if peekGroup .paren ahead then
    inside .paren (trait g place)
    return .trait
  else
    trait g place
    return .trait

/-! ## §2 Bounds joined by `+` -/

/-- Whether a bound may begin here. -/
def peekBound (place : BoundPlace) (tokens : List Token) : Bool :=
  peekAnyWord tokens || peek "::" tokens || peek "?" tokens || peekLifetime tokens
    || peekGroup .paren tokens || (place != .object && peekGroup .bracket tokens)

/-- Further bounds behind the first, each after a `+`; a `+` may stand at the
end. `fuel` bounds their number. -/
def moreBoundsWithin (place : BoundPlace) : Nat → Parser (List BoundReading)
  | 0 => fail
  | fuel + 1 => do
    if !(← takeIf "+") then return []
    if !peekBound place (← tokens) then return []
    let first ← g.bound place
    let more ← moreBoundsWithin place fuel
    return first :: more

/-- Further bounds behind the first, each after a `+`. -/
def moreBounds (place : BoundPlace) : Parser (List BoundReading) := do
  moreBoundsWithin g place ((← tokens).length + 1)

/-- Bounds of which at least one is a trait; without `plus` there is one. -/
def bounds (place : BoundPlace) (plus : Bool) : Parser Unit := do
  let first ← bound g place
  let more ← if plus then moreBounds g place else pure []
  if !(first :: more).contains .trait then fail

/-- Bounds behind the first, each required after its `+`; `fuel` bounds their
number. -/
def requiredBoundsWithin : Nat → Parser Unit
  | 0 => fail
  | fuel + 1 => do
    if ← takeIf "+" then
      let _ ← g.bound .object
      requiredBoundsWithin fuel

/-- Bounds behind the first, each required after its `+`. -/
def requiredBounds : Parser Unit := do
  requiredBoundsWithin g ((← tokens).length + 1)

end Surrogates.Grammar
