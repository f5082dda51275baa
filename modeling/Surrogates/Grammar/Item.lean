/-
Surrogates.Grammar.Item — the items of modules and of blocks: functions,
types, traits and their implementations, and what else is declared.

An item is read behind its attributes and its visibility. What has members
of its own, as traits have, reads them one after another up to the closing
brace.
-/
import Surrogates.Grammar.Signature

namespace Surrogates.Grammar

variable (g : Productions)

/-! ## §1 Macros -/

/-- A macro as an item or a member, with a semicolon behind it unless its
arguments stand in braces. -/
def macroItem : Parser Unit := do
  plainPath
  if (← invocation) != .brace then take ";"

/-- A macro as an item, which may name what it defines. -/
def namedMacro : Parser Unit := do
  plainPath
  take "!"
  let ahead ← tokens
  if peekIdentifier ahead || peekWord "try" ahead then advance 1
  if (← anyGroup) != .brace then take ";"

/-- A macro by its definition, its keyword taken. -/
def macroDefinition : Parser Unit := do
  identifier
  if peekGroup .paren (← tokens) then advance 1
  if peekGroup .brace (← tokens) then advance 1 else fail

/-- Whether a macro may begin here. -/
def peekMacro (tokens : List Token) : Bool :=
  peekIdentifier tokens || peekWordOf ["self", "super", "crate"] tokens || peek "::" tokens

/-! ## §2 Imports -/

/-- A new name, or an underscore for none. -/
def rename : Parser Unit :=
  identifierOr ["_"]

/-- What an import names: a path, all of it, part of it under another name, or
several in braces. With `rooted` a separator may stand in front of those in
braces. `fuel` bounds the depth. -/
def importTree : Nat → Bool → Parser Unit
  | 0, _ => fail
  | fuel + 1, rooted => do
    let ahead ← tokens
    if peekIdentifier ahead || peekWordOf ["self", "super", "crate", "try"] ahead then
      advance 1
      if ← takeIf "::" then importTree fuel false
      else if ← takeWordIf "as" then rename
    else if peek "*" ahead then advance 1
    else discard (listIn .brace do
      let led ← if rooted then takeIf "::" else pure false
      importTree fuel (rooted && !led))

/-- An import, its keyword taken. -/
def importItem : Parser Unit := do
  let led ← takeIf "::"
  importTree (weights (← tokens) + 1) !led
  take ";"

/-- A foreign part that is imported as a whole, its keywords taken. -/
def externCrate : Parser Unit := do
  identifierOr ["self"]
  if ← takeWordIf "as" then rename
  take ";"

/-! ## §3 Values -/

/-- The value behind an equals sign, if one comes next; the answer tells
whether one does. -/
def valueIfAssigned : Parser Bool := do
  if ← takeIf "=" then
    let _ ← g.anyExpr
    return true
  else
    return false

/-- A static value, its keyword taken; its type may be left out beside a value,
or its value beside a type. -/
def staticItem : Parser Unit := do
  let _ ← takeWordIf "mut"
  identifier
  if !(← valueIfAssigned g) then
    take ":"
    let _ ← g.type true
    discard (valueIfAssigned g)
  take ";"

/-- A constant, its keyword taken. -/
def constItem : Parser Unit := do
  rename
  genericsIf g
  take ":"
  let _ ← g.type true
  let _ ← valueIfAssigned g
  let _ ← whereIf g
  take ";"

/-! ## §4 Types -/

/-- Where the conditions of a type's name may stand. -/
inductive WherePlace where
  | beforeType
  | afterType
  | both
  deriving DecidableEq, Repr

/-- Bounds joined by `+` up to a stop, which a `+` may precede. -/
def boundsUntil (stop : List Token → Bool) : Parser Unit :=
  discard (separated (g.bound .parameter) "+" stop)

/-- A name for a type, from its keyword on: its parameters, its bounds, the type
that it names, and its conditions. -/
def typeName (place : WherePlace) : Parser Unit := do
  takeWord "type"
  identifier
  genericsIf g
  if ← takeIf ":" then
    boundsUntil g fun ahead => peekWord "where" ahead || peek "=" ahead || peek ";" ahead
  let before ← if place = .afterType then pure false else whereIf g
  if ← takeIf "=" then discard (g.type true)
  if place != .beforeType && !before then discard (whereIf g)
  take ";"

/-- Fields in braces, each with its name and its type; `fuel` bounds how deep a
field without a name has fields of its own. -/
def namedFields : Nat → Parser Unit
  | 0 => fail
  | fuel + 1 => discard (listIn .brace do
    let _ ← outerAttributes g
    let _ ← visibilityIf
    let unnamed ← takeWordIf "_"
    if !unnamed then identifier
    take ":"
    let ahead ← tokens
    if unnamed && (peekWord "struct" ahead
        || (peekWord "union" ahead && peekGroup .brace (ahead.drop 1))) then
      advance 1
      namedFields fuel
    else discard (g.type true))

/-- Fields in braces. -/
def fieldsInBraces : Parser Unit := do
  namedFields g (weights (← tokens) + 1)

/-- Fields in parentheses, each with its type. -/
def fieldsInParens : Parser Unit :=
  discard (listIn .paren do
    let _ ← outerAttributes g
    let _ ← visibilityIf
    g.type true)

/-- A structure, its keyword taken. -/
def structItem : Parser Unit := do
  identifier
  genericsIf g
  let conditions ← whereIf g
  let ahead ← tokens
  if !conditions && peekGroup .paren ahead then
    fieldsInParens g
    let _ ← whereIf g
    take ";"
  else if peekGroup .brace ahead then fieldsInBraces g
  else take ";"

/-- A structure whose fields share their place, its keyword taken. -/
def unionItem : Parser Unit := do
  identifier
  genericsIf g
  let _ ← whereIf g
  fieldsInBraces g

/-- A variant of an enumeration. -/
def variant : Parser Unit := do
  let _ ← outerAttributes g
  let _ ← visibilityIf
  identifier
  let ahead ← tokens
  if peekGroup .brace ahead then fieldsInBraces g
  else if peekGroup .paren ahead then fieldsInParens g
  discard (valueIfAssigned g)

/-- An enumeration, its keyword taken. -/
def enumItem : Parser Unit := do
  identifier
  genericsIf g
  let _ ← whereIf g
  discard (listIn .brace (variant g))

/-! ## §5 Members -/

/-- The braces of a part that has members. -/
def members (member : Parser Unit) : Parser Unit :=
  inside .brace do
    innerAttributes g
    many member

/-- The body of a function, or a semicolon where it has none. -/
def bodyOrSemicolon : Parser Unit := do
  if peekGroup .brace (← tokens) then describedBlock g else take ";"

/-- A member of a trait. -/
def traitMember : Parser Unit := do
  let _ ← outerAttributes g
  let isVisible ← visibilityIf
  let isDefault ← takeWordIf "default"
  let ahead ← tokens
  if peekSignature false ahead then
    signature g false
    bodyOrSemicolon g
  else if peekWord "const" ahead then
    advance 1
    constItem g
  else if peekWord "type" ahead then typeName g .afterType
  else if !isVisible && !isDefault && peekMacro ahead then macroItem
  else fail

/-- A member of an implementation. -/
def implMember : Parser Unit := do
  let _ ← outerAttributes g
  let isVisible ← visibilityIf
  let ahead ← tokens
  let isDefault := peekWord "default" ahead && !peek "!" (ahead.drop 1)
  if isDefault then advance 1
  let ahead ← tokens
  if peekSignature false ahead then
    signature g false
    bodyOrSemicolon g
  else if peekWord "const" ahead then
    advance 1
    constItem g
  else if peekWord "type" ahead then typeName g .afterType
  else if !isVisible && !isDefault && peekMacro ahead then macroItem
  else fail

/-- A static value among foreign declarations, its keyword taken. -/
def foreignStatic : Parser Unit := do
  let _ ← takeWordIf "mut"
  identifier
  take ":"
  let _ ← g.type true
  let _ ← valueIfAssigned g
  take ";"

/-- A foreign declaration. -/
def foreignMember : Parser Unit := do
  let _ ← outerAttributes g
  let isVisible ← visibilityIf
  let ahead ← tokens
  if peekSignature true ahead then
    signature g true
    bodyOrSemicolon g
  else if peekWord "static" ahead
      || (peekWordOf ["unsafe", "safe"] ahead && peekWord "static" (ahead.drop 1)) then
    advance (if peekWord "static" ahead then 1 else 2)
    foreignStatic g
  else if peekWord "type" ahead then typeName g .both
  else if !isVisible && peekMacro ahead then macroItem
  else fail

/-! ## §6 Parts with members -/

/-- The rest of a trait behind its parameters. -/
def traitRest : Parser Unit := do
  if ← takeIf ":" then
    boundsUntil g fun ahead => peekWord "where" ahead || peekGroup .brace ahead
  let _ ← whereIf g
  members g (traitMember g)

/-- A trait, or with `renames` perhaps a name for bounds, its keyword taken. -/
def traitItem (renames : Bool) : Parser Unit := do
  identifier
  genericsIf g
  if renames && peek "=" (← tokens) then
    advance 1
    boundsUntil g fun ahead => peekWord "where" ahead || peek ";" ahead
    let _ ← whereIf g
    take ";"
  else traitRest g

/-- An implementation: of a trait for a type, or of a type's own members. What
is not implemented names a trait. -/
def implItem : Parser Unit := do
  let _ ← takeWordIf "default"
  let _ ← takeWordIf "unsafe"
  takeWord "impl"
  if peekParameters (← tokens) then parameters g true
  let ahead ← tokens
  if peekWord "const" ahead then advance 1
  else if peek "?" ahead && peekWord "const" (ahead.drop 1) then advance 2
  let ahead ← tokens
  let negative := peek "!" ahead && !peekGroup .brace (ahead.drop 1)
  if negative then advance 1
  let _ ← g.type true
  if ← takeWordIf "for" then discard (g.type true)
  else if negative then fail
  let _ ← whereIf g
  members g (implMember g)

/-- Foreign declarations in braces. -/
def foreignItem : Parser Unit := do
  let _ ← takeWordIf "unsafe"
  if peekWord "extern" (← tokens) then conventionIf else fail
  members g (foreignMember g)

/-- A module, from its keyword on, with its items or without. -/
def moduleItem : Parser Unit := do
  let _ ← takeWordIf "unsafe"
  takeWord "mod"
  identifierOr ["try"]
  if !(← takeIf ";") then members g g.item

/-! ## §7 Items -/

/-- An item behind its attributes. -/
def describedItem : Parser Unit := do
  let isVisible ← visibilityIf
  let ahead ← tokens
  let after := ahead.drop 1
  if peekSignature false ahead then
    signature g false
    bodyOrSemicolon g
  else if peekWord "extern" ahead then
    if peekWord "crate" after then
      advance 2
      externCrate
    else if isVisible then fail
    else foreignItem g
  else if ← takeWordIf "use" then importItem
  else if ← takeWordIf "static" then staticItem g
  else if ← takeWordIf "const" then constItem g
  else if peekWord "unsafe" ahead then
    if peekWord "impl" after then implItem g
    else if peekWord "mod" after then moduleItem g
    else if peekWord "extern" after && !isVisible then foreignItem g
    else
      advance 1
      let _ ← takeWordIf "auto"
      takeWord "trait"
      traitItem g false
  else if peekWord "mod" ahead then moduleItem g
  else if peekWord "type" ahead then typeName g .beforeType
  else if ← takeWordIf "struct" then structItem g
  else if ← takeWordIf "enum" then enumItem g
  else if peekWord "union" ahead && peekIdentifier after then
    advance 1
    unionItem g
  else if ← takeWordIf "trait" then traitItem g true
  else if peekWord "auto" ahead && peekWord "trait" after then
    advance 2
    traitItem g false
  else if peekWord "impl" ahead || (peekWord "default" ahead && !peek "!" after) then implItem g
  else if ← takeWordIf "macro" then macroDefinition
  else if !isVisible && peekMacro ahead then namedMacro
  else fail

/-- An item. -/
def item : Parser Unit := do
  let _ ← outerAttributes g
  describedItem g

end Surrogates.Grammar
