/-
Surrogates.Grammar.Type — types.

Every form of type is recognised; paths, tuples, slices and arrays have
trees, and a type in parentheses has the tree of the type inside.
-/
import Surrogates.Grammar.Bound

namespace Surrogates.Grammar

variable (g : Productions)

/-! ## §1 Arrays -/

/-- The tree of an array. Its length is looked at before its items. -/
def lowerArray (item : Except TypeExpr.Problem TypeExpr) (length : ExprReading) :
    Except TypeExpr.Problem TypeExpr :=
  match length with
  | .integer n =>
    if n < Nat.pow 2 64 then
      item.map fun item => .node ⟨"[" ++ toString n ++ "]"⟩ [item] false
    else .error .lengthTooLarge
  | _ => .error .lengthNotLiteral

/-- A slice or an array, its bracket taken. -/
def bracketed : Parser TypeReading := do
  let item ← g.type true
  if ← takeIf ";" then
    let length ← g.anyExpr
    return ⟨lowerArray item.tree length, .other⟩
  else
    return ⟨item.tree.map fun item => .node ⟨"[]"⟩ [item] false, .other⟩

/-! ## §2 Parentheses -/

/-- The tree of a tuple. -/
def lowerTuple (items : List TypeReading) : Except TypeExpr.Problem TypeExpr :=
  (items.mapM TypeReading.tree).map fun items => .node ⟨"()"⟩ items false

/-- What stands in the parentheses of a type. -/
inductive Parenthesized where
  | tuple (items : List TypeReading)
  /-- Bounds that begin with a lifetime. -/
  | bounds
  /-- A bound with a `?`, which more bounds may follow. -/
  | bound
  | type (reading : TypeReading)

/-- The tokens in the parentheses of a type. -/
def parenthesizedContent : Parser Parenthesized := do
  let ahead ← tokens
  if ahead.isEmpty then return .tuple []
  else if peekLifetime ahead then
    bounds g .object true
    return .bounds
  else if peek "?" ahead then
    trait g .object
    return .bound
  else
    let first ← g.type true
    if ← takeIf "," then
      let more ← separated (g.type true) "," List.isEmpty
      return .tuple (first :: more)
    else
      return .type first

/-- A type that begins with parentheses: a tuple, a type, or a bound; with
`plus` more bounds may follow a bound. -/
def parenthesizedType (plus : Bool) : Parser TypeReading := do
  match ← inside .paren (parenthesizedContent g) with
  | .tuple items => return ⟨lowerTuple items, .other⟩
  | .bounds => return .unsupported .other
  | .bound =>
    let more := peek "+" (← tokens)
    requiredBounds g
    return .unsupported (if more then .other else .bound)
  | .type reading =>
    if plus && peek "+" (← tokens) && reading.shape != .other then
      requiredBounds g
      return .unsupported .other
    else
      return ⟨reading.tree, .other⟩

/-! ## §3 Functions -/

/-- Whether a name and its colon come next; with `self` that word may be the
name. -/
def peekNamed (self : Bool) (tokens : List Token) : Bool :=
  (peekIdentifier tokens || peekWord "_" tokens || (self && peekWord "self" tokens))
    && peek ":" (tokens.drop 1) && !peek "::" (tokens.drop 1)

/-- Whether the three dots that end the parameters of a function come next,
perhaps named. -/
def peekVariadic (tokens : List Token) : Bool :=
  peek "..." tokens || (peekNamed false tokens && peek "..." (tokens.drop 2))

/-- The three dots that end the parameters of a function. -/
def variadic : Parser Unit := do
  if !peek "..." (← tokens) then advance 2
  take "..."
  let _ ← takeIf ","

/-- Whether `mut self` comes next. -/
def peekMutableSelf (tokens : List Token) : Bool :=
  peekWord "mut" tokens && peekWord "self" (tokens.drop 1)

/-- A parameter of a function type. The first may be `self`, with a type or,
if it is mutable, without one; `mut self` may also stand for the type of a name. -/
def functionParameter (first : Bool) : Parser Unit := do
  let ahead ← tokens
  let isMutable := first && peekMutableSelf ahead
  let named := ahead.drop (if isMutable then 1 else 0)
  if peekNamed first named then
    advance (ahead.length - named.length + 2)
    if first && !peekWord "self" named && peekMutableSelf (named.drop 2) then advance 2
    else discard (g.type true)
  else if isMutable then advance 2
  else discard (g.type true)

/-- The parameters of a function type, its parentheses taken; `fuel` bounds
their number. -/
def functionParameters : Nat → Bool → Parser Unit
  | 0, _ => fail
  | fuel + 1, first => do
    unless (← tokens).isEmpty do
      let _ ← outerAttributes g
      if peekVariadic (← tokens) then variadic
      else
        functionParameter g first
        unless (← tokens).isEmpty do
          take ","
          functionParameters fuel false

/-- The name of a calling convention, `extern` and perhaps a text, if it comes
next. -/
def conventionIf : Parser Unit := do
  if ← takeWordIf "extern" then
    if peekText (← tokens) then advance 1

/-- A function type: its qualifiers, its parameters and its return type. -/
def functionType : Parser Unit := do
  let _ ← takeWordIf "unsafe"
  conventionIf
  takeWord "fn"
  inside .paren do
    functionParameters g ((← tokens).length + 1) true
  returnType g false

/-! ## §4 Paths -/

/-- A type that begins with a path: the path, a macro, or the first of several
bounds. With `binder` the path has parameters of its own and so is a bound. -/
def pathType (plus binder : Bool) : Parser TypeReading := do
  let found ← path g false
  let ahead ← tokens
  if isInvoked found ahead then
    let _ ← invocation
    return .unsupported .other
  else if plus && peek "+" ahead && (binder || !peek "+=" ahead) then
    let _ ← moreBounds g .object
    return .unsupported .other
  else if binder then
    return .unsupported .bound
  else
    return ⟨lowerPath found, found.shape⟩

/-- Whether a path may begin here that has no angle brackets in front. -/
def peekPath (tokens : List Token) : Bool :=
  peekIdentifier tokens || peekWordOf pathWords tokens || peek "::" tokens

/-! ## §5 Types -/

/-- The words that begin a function type. -/
def functionWords : List String :=
  ["fn", "unsafe", "extern"]

/-- A type behind parameters of its own, `for<…>`: a function or a trait. -/
def boundType (plus : Bool) : Parser TypeReading := do
  let ahead ← tokens
  if peekWordOf functionWords ahead then
    functionType g
    return .unsupported .other
  else if peek "::" ahead then fail
  else if peekPath ahead then pathType g plus true
  else fail

/-- A type that begins with a sign or a keyword. -/
def signedType (plus : Bool) : Parser Unit := do
  let ahead ← tokens
  if peek "<" ahead then qualifiedPath g false
  else if peekWord "dyn" ahead then
    advance 1
    let _ ← takeIf "*"
    bounds g .object plus
  else if peek "*" ahead then
    advance 1
    if !(← takeWordIf "const") then takeWord "mut"
    discard (g.type false)
  else if peek "&" ahead then
    advance 1
    lifetimeIf
    let _ ← takeWordIf "mut"
    discard (g.type false)
  else if peek "!" ahead || peekWord "_" ahead then advance 1
  else if peekWord "impl" ahead then
    advance 1
    bounds g .opaqueType plus
  else if peekLifetime ahead then bounds g .object true
  else fail

/-- A type; with `plus` bounds may be added to it. -/
def type (plus : Bool) : Parser TypeReading := do
  let ahead ← tokens
  if peekWord "for" ahead then
    let _ ← binderIf g
    boundType g plus
  else if peekGroup .paren ahead then parenthesizedType g plus
  else if peekGroup .bracket ahead then inside .bracket (bracketed g)
  else if peekWordOf functionWords ahead then
    functionType g
    return .unsupported .other
  else if peekPath ahead then pathType g plus false
  else
    signedType g plus
    return .unsupported .other

end Surrogates.Grammar
