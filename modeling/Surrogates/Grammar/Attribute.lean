/-
Surrogates.Grammar.Attribute — attributes, and the plain paths that name
them.

An attribute is a path, perhaps with arguments in brackets or with a value
behind an equals sign. Attributes inside of what they describe have an
exclamation mark, `#![…]`.
-/
import Surrogates.Grammar.Basic

namespace Surrogates.Grammar

/-! ## §1 Plain paths -/

/-- The keywords that a plain path may have as segments. -/
def pathWords : List String :=
  ["super", "self", "Self", "crate"]

/-- The segments of a plain path; `fuel` bounds their number. -/
def plainSegments : Nat → Parser Unit
  | 0 => fail
  | fuel + 1 => do
    identifierOr pathWords
    if ← takeIf "::" then plainSegments fuel

/-- A path without arguments. -/
def plainPath : Parser Unit := do
  let _ ← takeIf "::"
  plainSegments ((← tokens).length + 1)

/-! ## §2 Attributes -/

variable (g : Productions)

/-- The value of an attribute: a literal, or an expression that does not begin
with an attribute. -/
def attributeValue : Parser Unit := do
  let ahead ← tokens
  if peekLiteral ahead && ahead.length == literalLength ahead then literal
  else if peek "#" ahead && peekGroup .bracket (ahead.drop 1) then fail
  else discard g.anyExpr

/-- An attribute, its brackets taken. -/
def attributeBody : Parser Unit := do
  if !(← takeWordIf "unsafe") then plainPath
  let ahead ← tokens
  if peekAnyGroup ahead then discard anyGroup
  else if ← takeIf "=" then attributeValue g

/-- The attributes in front of what they describe; `fuel` bounds their number.
The answer tells whether there are any. -/
def outerWithin : Nat → Parser Bool
  | 0 => fail
  | fuel + 1 => do
    if ← takeIf "#" then
      inside .bracket (attributeBody g)
      let _ ← outerWithin fuel
      return true
    else
      return false

/-- The attributes in front of what they describe. -/
def outerAttributes : Parser Bool := do
  outerWithin g ((← tokens).length + 1)

/-- The attributes inside of what they describe; `fuel` bounds their number. -/
def innerWithin : Nat → Parser Unit
  | 0 => fail
  | fuel + 1 => do
    let ahead ← tokens
    if peek "#" ahead && peek "!" (ahead.drop 1) then
      advance 2
      inside .bracket (attributeBody g)
      innerWithin fuel

/-- The attributes inside of what they describe. -/
def innerAttributes : Parser Unit := do
  innerWithin g ((← tokens).length + 1)

/-! ## §3 Blocks -/

/-- A block in braces. -/
def block : Parser Unit :=
  inside .brace g.statements

/-- A block in braces that may begin with attributes. -/
def describedBlock : Parser Unit :=
  inside .brace do
    innerAttributes g
    g.statements

end Surrogates.Grammar
