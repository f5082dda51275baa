/-
Surrogates.Grammar.Parser — parsers over tokens.

A parser takes tokens from the front of what is left to read, or fails. A
failure is final and says only whether it was the number of a field that
did not fit. A group may be left before its end; that is noted and not a
failure yet, because a later failure counts before it.

What a parser decides by looking ahead is a test on the list of tokens, so
it is written as a plain function on lists.
-/
import Surrogates.Grammar.Token

namespace Surrogates.Grammar

/-! ## §1 Parsers -/

/-- Why a text does not parse. -/
inductive Fault where
  | malformed
  /-- The number of a field is an integer that does not fit 32 bits. -/
  | indexTooLarge
  deriving DecidableEq, Repr

/-- What is left to read: the tokens, and whether a group that was read had
tokens left over. -/
structure Remainder where
  tokens : List Token
  leftover : Bool

/-- Takes tokens from the front of what is left, or fails. -/
abbrev Parser := StateT Remainder (Except Fault)

/-- The parser that always fails. -/
def fail {α : Type} : Parser α := throw .malformed

/-- The tokens that are left. -/
def tokens : Parser (List Token) := do
  return (← get).tokens

/-- Takes tokens whatever they are. -/
def advance (count : Nat) : Parser Unit :=
  modify fun left => { left with tokens := left.tokens.drop count }

/-- What a parser finds, or nothing and nothing taken where it fails. -/
def attempt {α : Type} (p : Parser α) : Parser (Option α) := fun left =>
  match p left with
  | .ok (found, after) => .ok (some found, after)
  | .error _ => .ok (none, left)

/-- What would be left behind a parser, or nothing where it fails. -/
def behind {α : Type} (p : Parser α) (tokens : List Token) : Option (List Token) :=
  match p ⟨tokens, false⟩ with
  | .ok (_, after) => some after.tokens
  | .error _ => none

/-! ## §2 Signs -/

/-- Whether the signs of a compound sign come next without gaps. -/
def peekSigns : List Char → List Token → Bool
  | [], _ => true
  | [c], .sign c' _ :: _ => c == c'
  | c :: cs, .sign c' joint :: rest => c == c' && joint && peekSigns cs rest
  | _, _ => false

/-- Whether a sign, simple or compound, comes next. -/
def peek (sign : String) (tokens : List Token) : Bool :=
  peekSigns sign.toList tokens

/-- Takes a sign. -/
def take (sign : String) : Parser Unit := do
  if peek sign (← tokens) then advance sign.length else fail

/-- Takes a sign if it comes next, and tells whether it did. -/
def takeIf (sign : String) : Parser Bool := do
  if peek sign (← tokens) then
    advance sign.length
    return true
  else
    return false

/-! ## §3 Words -/

/-- The words that are no identifiers. -/
def keywords : List String :=
  ["_", "abstract", "as", "async", "await", "become", "box", "break", "const", "continue", "crate",
   "do", "dyn", "else", "enum", "extern", "false", "final", "fn", "for", "if", "impl", "in", "let",
   "loop", "macro", "match", "mod", "move", "mut", "override", "priv", "pub", "ref", "return",
   "Self", "self", "static", "struct", "super", "trait", "true", "try", "type", "typeof", "unsafe",
   "unsized", "use", "virtual", "where", "while", "yield"]

/-- Whether a word is an identifier. -/
def isIdentifier (word : String) : Bool :=
  !keywords.contains word

/-- Whether a word comes next. -/
def peekWord (word : String) : List Token → Bool
  | .word text :: _ => text == word
  | _ => false

/-- Whether one of some words comes next. -/
def peekWordOf (words : List String) : List Token → Bool
  | .word text :: _ => words.contains text
  | _ => false

/-- Whether any word comes next. -/
def peekAnyWord : List Token → Bool
  | .word _ :: _ => true
  | _ => false

/-- Whether an identifier comes next. -/
def peekIdentifier : List Token → Bool
  | .word text :: _ => isIdentifier text
  | _ => false

/-- Takes a word. -/
def takeWord (word : String) : Parser Unit := do
  if peekWord word (← tokens) then advance 1 else fail

/-- Takes a word if it comes next, and tells whether it did. -/
def takeWordIf (word : String) : Parser Bool := do
  if peekWord word (← tokens) then
    advance 1
    return true
  else
    return false

/-- Takes an identifier. -/
def identifier : Parser Unit := do
  if peekIdentifier (← tokens) then advance 1 else fail

/-- Takes an identifier or one of some words. -/
def identifierOr (words : List String) : Parser Unit := do
  let ahead ← tokens
  if peekIdentifier ahead || peekWordOf words ahead then advance 1 else fail

/-! ## §4 Lifetimes and literals -/

/-- Whether a lifetime comes next. -/
def peekLifetime : List Token → Bool
  | .lifetime :: _ => true
  | _ => false

/-- Takes a lifetime. -/
def lifetime : Parser Unit := do
  if peekLifetime (← tokens) then advance 1 else fail

/-- Takes a lifetime if it comes next. -/
def lifetimeIf : Parser Unit := do
  if peekLifetime (← tokens) then advance 1

/-- Whether a text comes next. -/
def peekText : List Token → Bool
  | .literal .text :: _ => true
  | _ => false

/-- The tokens of the literal that comes next, or none: a number may have a
minus sign, and the two truth values are literals. -/
def literalLength : List Token → Nat
  | .literal _ :: _ => 1
  | .word text :: _ => if text == "true" || text == "false" then 1 else 0
  | .sign '-' _ :: .literal (.integer _ _) :: _ => 2
  | .sign '-' _ :: .literal (.float _) :: _ => 2
  | _ => 0

/-- Whether a literal comes next. -/
def peekLiteral (tokens : List Token) : Bool :=
  literalLength tokens != 0

/-- Takes a literal. -/
def literal : Parser Unit := do
  let ahead ← tokens
  if peekLiteral ahead then advance (literalLength ahead) else fail

/-! ## §5 Groups -/

/-- Whether a group in the given brackets comes next. -/
def peekGroup (d : Delimiter) : List Token → Bool
  | .group d' _ :: _ => d == d'
  | _ => false

/-- Whether a group comes next. -/
def peekAnyGroup : List Token → Bool
  | .group _ _ :: _ => true
  | _ => false

/-- Takes a group and parses its tokens. -/
def inside {α : Type} (d : Delimiter) (p : Parser α) : Parser α := fun left =>
  match left.tokens with
  | .group d' content :: rest =>
    if d = d' then
      match p ⟨content, left.leftover⟩ with
      | .ok (found, inner) => .ok (found, ⟨rest, inner.leftover || !inner.tokens.isEmpty⟩)
      | .error fault => .error fault
    else .error .malformed
  | _ => .error .malformed

/-- Takes a group whatever its tokens are, and gives its brackets. -/
def anyGroup : Parser Delimiter := do
  match ← tokens with
  | .group d _ :: _ => advance 1; return d
  | _ => fail

/-! ## §6 Lists -/

section Lists

variable {α : Type} (item : Parser α) (separator : String) (stop : List Token → Bool)

/-- Items with separators between them, of which `fuel` bounds the number. -/
def separatedWithin : Nat → Parser (List α)
  | 0 => fail
  | fuel + 1 => do
    if stop (← tokens) then return []
    let first ← item
    if stop (← tokens) then return [first]
    take separator
    let more ← separatedWithin fuel
    return first :: more

/-- Items with separators between them until a stop, which is not taken. A
separator may stand before the stop. -/
def separated : Parser (List α) := do
  separatedWithin item separator stop ((← tokens).length + 1)

/-- Items with separators between them, of which `fuel` bounds the number. -/
def joinedWithin : Nat → Parser (List α)
  | 0 => fail
  | fuel + 1 => do
    if stop (← tokens) then return []
    let first ← item
    if peek separator (← tokens) then
      advance separator.length
      let more ← joinedWithin fuel
      return first :: more
    else
      return [first]

/-- Items as long as separators follow them, or until a stop. -/
def joined : Parser (List α) := do
  joinedWithin item separator stop ((← tokens).length + 1)

/-- Items up to the end, of which `fuel` bounds the number. -/
def manyWithin : Nat → Parser Unit
  | 0 => fail
  | fuel + 1 => do
    unless (← tokens).isEmpty do
      let _ ← item
      manyWithin fuel

/-- Items up to the end. -/
def many : Parser Unit := do
  manyWithin item ((← tokens).length + 1)

end Lists

/-- Items with commas between them in brackets. -/
def listIn {α : Type} (d : Delimiter) (item : Parser α) : Parser (List α) :=
  inside d (separated item "," List.isEmpty)

end Surrogates.Grammar
