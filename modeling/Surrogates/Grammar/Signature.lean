/-
Surrogates.Grammar.Signature — the visibility of items, and the signatures
of functions.

A function may have a receiver as its first parameter: `self`, perhaps by
reference, mutable or with a type.
-/
import Surrogates.Grammar.Pattern
import Surrogates.Grammar.Type

namespace Surrogates.Grammar

variable (g : Productions)

/-! ## §1 Visibility -/

/-- The part of a program in parentheses to which a visibility is restricted:
one word alone, or a path behind `in`. -/
def restriction : Parser Unit := do
  if ← takeWordIf "in" then plainPath else advance 1

/-- Whether a restriction comes next, so that the parentheses belong to the
visibility and not to what follows. -/
def peekRestriction (tokens : List Token) : Bool :=
  match tokens with
  | .group .paren [.word text] :: _ => ["crate", "self", "super"].contains text
  | .group .paren (.word "in" :: _) :: _ => true
  | _ => false

/-- A visibility, if one comes next; the answer tells whether one does. -/
def visibilityIf : Parser Bool := do
  if ← takeWordIf "pub" then
    if peekRestriction (← tokens) then inside .paren restriction
    return true
  else
    return false

/-! ## §2 Parameters -/

/-- A receiver, the first parameter of a method. -/
def receiver : Parser Unit := do
  let byReference ← takeIf "&"
  if byReference then lifetimeIf
  let _ ← takeWordIf "mut"
  takeWord "self"
  if !byReference then
    if ← takeIf ":" then discard (g.type true)

/-- A parameter of a function. -/
inductive Argued where
  | receiver
  | typed
  /-- The three dots that stand for more parameters. -/
  | variadic
  deriving DecidableEq, Repr

/-- A parameter of a function that is not three dots alone. -/
def functionArgument : Parser Argued := do
  match ← attempt (receiver g) with
  | some _ => return .receiver
  | none =>
    let ahead ← tokens
    if peekIdentifier ahead && peek "<" (ahead.drop 1) then
      let _ ← g.type true
      return .typed
    else
      let _ ← single g
      take ":"
      if ← takeIf "..." then return .variadic
      let _ ← g.type true
      return .typed

/-- The end of the parameters behind three dots. -/
def variadicEnd : Parser Unit := do
  unless (← tokens).isEmpty do
    take ","

/-- The parameters of a function, its parentheses taken. A receiver stands
first; `fuel` bounds their number. -/
def functionArguments : Nat → Bool → Parser Unit
  | 0, _ => fail
  | fuel + 1, first => do
    unless (← tokens).isEmpty do
      let _ ← outerAttributes g
      if ← takeIf "..." then variadicEnd
      else
        match ← functionArgument g with
        | .variadic => variadicEnd
        | found =>
          if found = .receiver && !first then fail
          unless (← tokens).isEmpty do
            take ","
            functionArguments fuel false

/-! ## §3 Signatures -/

/-- The tokens without a word in front. -/
def dropWord (word : String) (tokens : List Token) : List Token :=
  if peekWord word tokens then tokens.drop 1 else tokens

/-- Whether a function comes next, with its qualifiers; with `safe` that may be
one of them. -/
def peekSignature (safe : Bool) (tokens : List Token) : Bool :=
  let rest := dropWord "async" (dropWord "const" tokens)
  let rest := if safe && peekWord "safe" rest then rest.drop 1 else dropWord "unsafe" rest
  let rest :=
    if peekWord "extern" rest then
      if peekText (rest.drop 1) then rest.drop 2 else rest.drop 1
    else rest
  peekWord "fn" rest

/-- The signature of a function: its qualifiers, its name, its parameters, its
return type and its conditions. -/
def signature (safe : Bool) : Parser Unit := do
  let _ ← takeWordIf "const"
  let _ ← takeWordIf "async"
  let isUnsafe ← takeWordIf "unsafe"
  if safe && !isUnsafe then discard (takeWordIf "safe")
  conventionIf
  takeWord "fn"
  identifier
  genericsIf g
  inside .paren do
    functionArguments g ((← tokens).length + 1) true
  returnType g true
  discard (whereIf g)

end Surrogates.Grammar
