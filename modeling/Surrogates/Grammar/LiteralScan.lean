/-
Surrogates.Grammar.LiteralScan — literals in the text of a type expression.

Each scanner answers with the literal and the rest of the text, or with
nothing if the text does not begin with a literal of its class. `scan?`
tries the classes in order: strings before characters, numbers with a point
or an exponent before integers. A literal may carry a suffix, which is a
word without a gap.
-/
import Surrogates.Grammar.Token
import Surrogates.Text.Identifier

namespace Surrogates.Grammar.LiteralScan

open Text

/-! ## §1 Words -/

/-- The word in front, and the rest. -/
def word? : List Char → Option (List Char × List Char)
  | [] => none
  | c :: rest =>
    if Identifier.isStart c then
      some (c :: rest.takeWhile Identifier.isContinue, rest.dropWhile Identifier.isContinue)
    else none

/-- The text without the suffix of a literal. -/
def dropSuffix (cs : List Char) : List Char :=
  match word? cs with
  | some (_, rest) => rest
  | none => cs

/-! ## §2 Digits -/

/-- The value of a digit of a base up to sixteen. -/
def digitValue (c : Char) : Nat :=
  if c.isDigit then c.toNat - '0'.toNat
  else if 'a' ≤ c ∧ c ≤ 'f' then c.toNat - 'a'.toNat + 10
  else c.toNat - 'A'.toNat + 10

/-- A digit of the given base, at most sixteen. -/
def isDigitOf (base : Nat) (c : Char) : Bool :=
  (c.isDigit || ('a' ≤ c && c ≤ 'f') || ('A' ≤ c && c ≤ 'F')) && digitValue c < base

/-- The natural number that digits of a base write. -/
def natOfDigits (base : Nat) (digits : List Char) : Nat :=
  digits.foldl (fun n c => n * base + digitValue c) 0

/-! ## §3 What stands in quotes -/

/-- What the characters of a string stand for, which decides the characters
and escapes that it may have. -/
inductive Content where
  /-- Text: any character. -/
  | text
  /-- Bytes: characters of ASCII, and any byte by its number. -/
  | bytes
  /-- Text that ends with a zero, and so has none before. -/
  | terminated
  deriving DecidableEq, Repr

/-- Whether a character may stand in quotes as it is. -/
def Content.admits : Content → Char → Bool
  | .text, _ => true
  | .bytes, c => c.toNat < 128
  | .terminated, c => c.toNat != 0

/-- The rest after the escape of a character by its number in braces, the
opening brace taken: one to six hexadecimal digits, with underscores behind
the first, that are the number of a character. -/
def numbered? (content : Content) (cs : List Char) : Option (List Char) :=
  let inside := cs.takeWhile fun c => isDigitOf 16 c || c == '_'
  let digits := inside.filter (· != '_')
  let code := natOfDigits 16 digits
  match inside, cs.drop inside.length with
  | first :: _, '}' :: after =>
    if first ≠ '_' ∧ digits.length ≤ 6 ∧ code.isValidChar
        ∧ (content = .terminated → code ≠ 0) then
      some after
    else none
  | _, _ => none

/-- The rest after an escape, the backslash before it taken. Two hexadecimal
digits stay below 128 in a text, and a byte has no other number. -/
def escape? (content : Content) : List Char → Option (List Char)
  | 'x' :: a :: b :: rest =>
    let high := if content = .text then 8 else 16
    if isDigitOf high a ∧ isDigitOf 16 b
        ∧ (content = .terminated → ¬ (a = '0' ∧ b = '0')) then
      some rest
    else none
  | 'u' :: '{' :: rest => if content = .bytes then none else numbered? content rest
  | '0' :: rest => if content = .terminated then none else some rest
  | c :: rest => if ['n', 'r', 't', '\\', '\'', '"'].contains c then some rest else none
  | [] => none

/-- The rest after the closing quote of a string with escapes; `fuel` bounds
the number of characters. A line may end with a backslash, and a carriage
return stands before a line feed only. -/
def closeString (content : Content) : Nat → List Char → Option (List Char)
  | 0, _ => none
  | _ + 1, [] => none
  | _ + 1, '"' :: rest => some (dropSuffix rest)
  | fuel + 1, '\r' :: '\n' :: rest => closeString content fuel rest
  | _ + 1, '\r' :: _ => none
  | fuel + 1, '\\' :: '\n' :: rest => closeString content fuel rest
  | fuel + 1, '\\' :: '\r' :: '\n' :: rest => closeString content fuel rest
  | fuel + 1, '\\' :: rest => (escape? content rest).bind (closeString content fuel)
  | fuel + 1, c :: rest => if content.admits c then closeString content fuel rest else none

/-- The rest after the closing quote and `hashes` hashes of a raw string. -/
def closeRaw (content : Content) (hashes : Nat) : List Char → Option (List Char)
  | [] => none
  | '\r' :: '\n' :: rest => closeRaw content hashes rest
  | '\r' :: _ => none
  | '"' :: rest =>
    if rest.take hashes = List.replicate hashes '#' then some (dropSuffix (rest.drop hashes))
    else closeRaw content hashes rest
  | c :: rest => if content.admits c then closeRaw content hashes rest else none

/-- A raw string after the letters in front of it: at most 255 hashes, a
quote, and the same closed in the same way. -/
def raw? (content : Content) (cs : List Char) : Option (List Char) :=
  let hashes := (cs.takeWhile (· == '#')).length
  match cs.dropWhile (· == '#') with
  | '"' :: rest => if hashes ≤ 255 then closeRaw content hashes rest else none
  | _ => none

/-- A character or byte after its opening quote. -/
def character? (content : Content) : List Char → Option (List Char)
  | '\\' :: rest => (escape? content rest).bind close
  | c :: rest => if content.admits c then close rest else none
  | [] => none
where
  /-- The closing quote and the suffix. -/
  close : List Char → Option (List Char)
    | '\'' :: rest => some (dropSuffix rest)
    | _ => none

/-- A string with escapes, its opening quote taken. -/
def cooked? (content : Content) (cs : List Char) : Option (List Char) :=
  closeString content (cs.length + 1) cs

/-- A string of any kind, with or without escapes, a byte or a character. -/
def quoted? (cs : List Char) : Option (Literal × List Char) :=
  match cs with
  | '"' :: rest => (cooked? .text rest).map (.text, ·)
  | 'r' :: rest => (raw? .text rest).map (.text, ·)
  | 'b' :: '"' :: rest => (cooked? .bytes rest).map (.other, ·)
  | 'b' :: 'r' :: rest => (raw? .bytes rest).map (.other, ·)
  | 'c' :: '"' :: rest => (cooked? .terminated rest).map (.other, ·)
  | 'c' :: 'r' :: rest => (raw? .terminated rest).map (.other, ·)
  | 'b' :: '\'' :: rest => (character? .bytes rest).map (.other, ·)
  | '\'' :: rest => (character? .text rest).map (.other, ·)
  | _ => none

/-! ## §4 Numbers -/

/-- The text after a number, if no word goes on there once a suffix is taken. -/
def endNumber? (cs : List Char) : Option (List Char) :=
  let rest := dropSuffix cs
  match rest with
  | c :: _ => if Identifier.isContinue c then none else some rest
  | [] => some rest

/-- Decimal digits and underscores. -/
def isDecimal (c : Char) : Bool :=
  c.isDigit || c == '_'

/-- The rest after an exponent, its letter taken: one sign at most, and at
least one digit. -/
def exponent? (cs : List Char) : Option (List Char) :=
  let body := match cs.dropWhile (· == '_') with
    | '+' :: rest => rest
    | '-' :: rest => rest
    | rest => rest
  if (body.takeWhile isDecimal).any Char.isDigit then some (body.dropWhile isDecimal) else none

/-- The rest after a number with a point or an exponent. A point before
another point or a word belongs to what follows, and a letter `e` without
digits to the suffix. -/
def float? (cs : List Char) : Option (List Char) :=
  match cs with
  | c :: _ =>
    if c.isDigit then
      match cs.dropWhile isDecimal with
      | '.' :: rest =>
        if startsWord rest then none
        else
          match rest.dropWhile isDecimal with
          | e :: after =>
            if e = 'e' ∨ e = 'E' then
              match exponent? after with
              | some tail => endNumber? tail
              | none => endNumber? (e :: after)
            else endNumber? (e :: after)
          | [] => some []
      | e :: after =>
        if e = 'e' ∨ e = 'E' then (exponent? after).bind endNumber? else none
      | [] => none
    else none
  | [] => none
where
  /-- Whether a point or a word comes next. -/
  startsWord : List Char → Bool
    | c :: _ => c == '.' || Identifier.isStart c
    | [] => false

/-- The base that the front of an integer gives, and its digits onwards. -/
def integerBase : List Char → Nat × List Char
  | '0' :: 'x' :: rest => (16, rest)
  | '0' :: 'o' :: rest => (8, rest)
  | '0' :: 'b' :: rest => (2, rest)
  | cs => (10, cs)

/-- An integer: digits of its base with underscores between them, and a suffix
that is left out of the value. A decimal integer begins with a digit, and a
decimal digit beyond the base is a fault. -/
def integer? (cs : List Char) : Option (Literal × List Char) :=
  let (base, body) := integerBase cs
  let digits := body.takeWhile fun c => isDigitOf base c || c == '_'
  let rest := body.dropWhile fun c => isDigitOf base c || c == '_'
  let values := digits.filter (· != '_')
  if values.isEmpty || (base == 10 && digits.head? == some '_') then none
  else if (rest.head?.map Char.isDigit).getD false then none
  else
    (endNumber? rest).map (.integer (natOfDigits base values) (word? rest).isSome, ·)

/-! ## §5 All literals -/

/-- The literal in front of a text, and the rest. -/
def scan? (cs : List Char) : Option (Literal × List Char) :=
  match quoted? cs with
  | some found => some found
  | none =>
    match float? cs with
    | some rest => some (.float (cs.take (cs.length - rest.length)), rest)
    | none => integer? cs

end Surrogates.Grammar.LiteralScan
