/-
Surrogates.Grammar.Pattern — patterns, as they stand in the expressions of
an array length.

The ends of a range are constants: literals, paths and blocks. A range
without an upper end has to be open there, `1..`, and is then no item of a
slice.
-/
import Surrogates.Grammar.Path

namespace Surrogates.Grammar

variable (g : Productions)

/-! ## §1 Numbers of fields -/

/-- The largest number that a field may have. -/
def lastField : Nat := 4294967295

/-- Accepts the number of a field. -/
def fieldNumber (value : Nat) (suffixed : Bool) : Parser Unit :=
  if suffixed then fail
  else if value ≤ lastField then pure ()
  else throw .indexTooLarge

/-- The name or the number of a field; the answer tells whether it is a name. -/
def member : Parser Bool := do
  match ← tokens with
  | .literal (.integer value suffixed) :: _ =>
    advance 1
    fieldNumber value suffixed
    return false
  | _ =>
    identifier
    return true

/-! ## §2 Ranges -/

/-- The dots of a range, two or, with an equals sign, closed; the answer tells
whether it is closed. -/
def rangeDots : Parser Bool := do
  let ahead ← tokens
  if peek "..=" ahead then
    advance 3
    return true
  else if peek ".." ahead && !peek "..." ahead then
    advance 2
    return false
  else fail

/-- The dots behind the lower end of a range of patterns, where three dots
close the range too. -/
def patternDots : Parser Bool := do
  if peek "..." (← tokens) then
    advance 3
    return true
  else rangeDots

/-- Whether a range of patterns ends here. -/
def peekPatternEnd (tokens : List Token) : Bool :=
  tokens.isEmpty || peek "|" tokens || peek "=" tokens || (peek ":" tokens && !peek "::" tokens)
    || peek "," tokens || peek ";" tokens || peekWord "if" tokens

/-- A constant that may be the end of a range. -/
def rangeEnd : Parser Unit := do
  let ahead ← tokens
  if peekLiteral ahead then literal
  else if peekWord "const" ahead then
    advance 1
    describedBlock g
  else if peekIdentifier ahead || peekWordOf pathWords ahead || peek "::" ahead
      || peek "<" ahead then
    discard (anyPath g true)
  else fail

/-- The upper end of a range, if there is one; a closed range has one. -/
def upperEnd (closed : Bool) : Parser PatternReading := do
  if peekPatternEnd (← tokens) then
    if closed then fail else return .openRange
  else
    rangeEnd g
    return .other

/-! ## §3 Patterns with parts -/

/-- A field of a pattern: a field and its pattern, or a name. -/
def patternField : Parser Unit := do
  let boxed ← takeWordIf "box"
  let byRef ← takeWordIf "ref"
  let mutable ← takeWordIf "mut"
  if boxed || byRef || mutable then identifier
  else
    let named ← member
    if !named || peek ":" (← tokens) then
      take ":"
      discard g.pattern

/-- The fields of a pattern, its brace taken; two dots may stand last for the
fields that are not named. `fuel` bounds their number. -/
def patternFields : Nat → Parser Unit
  | 0 => fail
  | fuel + 1 => do
    unless (← tokens).isEmpty do
      let _ ← outerAttributes g
      if !(← takeIf "..") then
        patternField g
        unless (← tokens).isEmpty do
          take ","
          patternFields fuel

/-- A pattern that begins with a path: a macro, a structure, a range or a
name. -/
def pathPattern : Parser PatternReading := do
  let found ← anyPath g true
  let ahead ← tokens
  if found.any (isInvoked · ahead) then
    let _ ← invocation
    return .other
  else if peekGroup .brace ahead then
    inside .brace do
      patternFields g ((← tokens).length + 1)
    return .other
  else if peekGroup .paren ahead then
    let _ ← listIn .paren g.pattern
    return .other
  else if peek ".." ahead then
    upperEnd g (← patternDots)
  else
    return .other

/-- A name, perhaps by reference or mutable, and the pattern behind its `@`. -/
def namePattern : Parser Unit := do
  let _ ← takeWordIf "ref"
  let _ ← takeWordIf "mut"
  identifierOr ["self"]
  if ← takeIf "@" then discard g.single

/-- A pattern that begins with a constant: the constant or a range. -/
def constantPattern : Parser PatternReading := do
  rangeEnd g
  if peek ".." (← tokens) then upperEnd g (← patternDots) else return .other

/-- A range of patterns without a lower end, or two dots alone. -/
def dotsPattern : Parser PatternReading := do
  let closed ← rangeDots
  let bounded := !peekPatternEnd (← tokens)
  let _ ← upperEnd g closed
  return if bounded then .openRange else .other

/-- An item of a slice, which no range with one end is. -/
def sliceItem : Parser Unit := do
  if (← g.pattern) = .openRange then fail

/-! ## §4 Patterns -/

/-- Whether a path comes next that is more than a name. -/
def peekPathPattern (tokens : List Token) : Bool :=
  let after := tokens.drop 1
  (peekIdentifier tokens
      && (peek "::" after || peek "!" after || peekGroup .brace after || peekGroup .paren after
        || peek ".." after))
    || (peekWord "self" tokens && peek "::" after)
    || peek "::" tokens || peek "<" tokens || peekWordOf ["Self", "super", "crate"] tokens

/-- A pattern without alternatives. -/
def single : Parser PatternReading := do
  let ahead ← tokens
  if peekPathPattern ahead then pathPattern g
  else if peekWord "_" ahead then
    advance 1
    return .other
  else if peekWord "box" ahead then
    advance 1
    let _ ← g.single
    return .other
  else if peek "-" ahead || peekLiteral ahead || peekWord "const" ahead then constantPattern g
  else if peekWordOf ["ref", "mut", "self"] ahead || peekIdentifier ahead then
    namePattern g
    return .other
  else if peek "&" ahead then
    advance 1
    let _ ← takeWordIf "mut"
    let _ ← g.single
    return .other
  else if peekGroup .paren ahead then
    let _ ← listIn .paren g.pattern
    return .other
  else if peekGroup .bracket ahead then
    let _ ← listIn .bracket (sliceItem g)
    return .other
  else if peek ".." ahead && !peek "..." ahead then dotsPattern g
  else fail

/-- Whether a bar comes next that separates alternatives. -/
def peekAlternative (tokens : List Token) : Bool :=
  peek "|" tokens && !peek "||" tokens && !peek "|=" tokens

/-- Further alternatives, of which `fuel` bounds the number; the answer tells
whether there are any. -/
def alternatives : Nat → Parser Bool
  | 0 => fail
  | fuel + 1 => do
    if peekAlternative (← tokens) then
      advance 1
      let _ ← single g
      let _ ← alternatives fuel
      return true
    else
      return false

/-- A pattern with its alternatives, a bar perhaps in front. -/
def pattern : Parser PatternReading := do
  let barred ← takeIf "|"
  let first ← single g
  let more ← alternatives g ((← tokens).length + 1)
  return if barred || more then .other else first

end Surrogates.Grammar
