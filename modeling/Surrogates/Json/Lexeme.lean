/-
Surrogates.Json.Lexeme — the lexemes of a JSON text (RFC 8259).

`scan` cuts a text into punctuation, names, numbers and strings. Where the
text has no lexeme it ends with `bad`: what stands before a lexical fault
can still be read, and what follows the first complete value is never
looked at.

A string lexeme holds its characters, or nothing if it has an escaped
surrogate without its partner; such a string can be skipped but not read.
A number lexeme keeps its digits, so that a number can be skipped whatever
its size.
-/

namespace Surrogates.Json

/-! ## §1 The type -/

/-- The digits of a number as written. -/
structure NumberText where
  negative : Bool
  whole : List Nat
  fraction : Option (List Nat)
  /-- Whether the exponent is negative, and its digits. -/
  exponent : Option (Bool × List Nat)
  deriving DecidableEq, Repr

/-- A lexeme of JSON. -/
inductive Lexeme where
  | openBrace
  | closeBrace
  | openBracket
  | closeBracket
  | comma
  | colon
  | null
  | bool (value : Bool)
  | number (text : NumberText)
  | string (content : Option String)
  | bad
  deriving DecidableEq, Repr

namespace Lexeme

/-! ## §2 Numbers -/

/-- The value of a decimal digit. -/
def digit? (c : Char) : Option Nat :=
  if c.isDigit then some (c.toNat - '0'.toNat) else none

/-- The longest run of digits in front, and the rest. -/
def takeDigits : List Char → List Nat × List Char
  | [] => ([], [])
  | c :: rest =>
    match digit? c with
    | some d =>
      let (ds, after) := takeDigits rest
      (d :: ds, after)
    | none => ([], c :: rest)

/-- A fraction, if a point comes next; a point without digits is a fault. -/
def scanFraction : List Char → Option (Option (List Nat) × List Char)
  | '.' :: rest =>
    match takeDigits rest with
    | ([], _) => none
    | (ds, after) => some (some ds, after)
  | cs => some (none, cs)

/-- The digits of an exponent, of which there is at least one. -/
def scanExponentDigits (negative : Bool) (cs : List Char) :
    Option (Option (Bool × List Nat) × List Char) :=
  match takeDigits cs with
  | ([], _) => none
  | (ds, after) => some (some (negative, ds), after)

/-- An exponent, if one comes next. -/
def scanExponent : List Char → Option (Option (Bool × List Nat) × List Char)
  | c :: rest =>
    if c = 'e' ∨ c = 'E' then
      match rest with
      | '+' :: after => scanExponentDigits false after
      | '-' :: after => scanExponentDigits true after
      | after => scanExponentDigits false after
    else some (none, c :: rest)
  | [] => some (none, [])

/-- A number after its sign; a zero in front of other digits is a fault. -/
def scanNumber (negative : Bool) (cs : List Char) : Option (Lexeme × List Char) :=
  match takeDigits cs with
  | ([], _) => none
  | (0 :: _ :: _, _) => none
  | (whole, rest) => do
    let (fraction, rest) ← scanFraction rest
    let (exponent, rest) ← scanExponent rest
    some (.number ⟨negative, whole, fraction, exponent⟩, rest)

/-! ## §3 Strings -/

/-- The value of a hexadecimal digit. -/
def hexDigit? (c : Char) : Option Nat :=
  if c.isDigit then some (c.toNat - '0'.toNat)
  else if 'a' ≤ c ∧ c ≤ 'f' then some (c.toNat - 'a'.toNat + 10)
  else if 'A' ≤ c ∧ c ≤ 'F' then some (c.toNat - 'A'.toNat + 10)
  else none

/-- The code that a one-letter escape stands for. -/
def escape? : Char → Option Nat
  | '"' => some 0x22
  | '\\' => some 0x5C
  | '/' => some 0x2F
  | 'b' => some 0x08
  | 'f' => some 0x0C
  | 'n' => some 0x0A
  | 'r' => some 0x0D
  | 't' => some 0x09
  | _ => none

/-- The codes of a string up to its closing quote, and the rest. An escape of
four hexadecimal digits gives its code as it stands, so only escapes give
surrogates. -/
def scanCodes : List Char → Option (List Nat × List Char)
  | [] => none
  | '"' :: rest => some ([], rest)
  | '\\' :: 'u' :: a :: b :: c :: d :: rest => do
    let a ← hexDigit? a
    let b ← hexDigit? b
    let c ← hexDigit? c
    let d ← hexDigit? d
    let (codes, after) ← scanCodes rest
    some ((((a * 16 + b) * 16 + c) * 16 + d) :: codes, after)
  | '\\' :: e :: rest => do
    let code ← escape? e
    let (codes, after) ← scanCodes rest
    some (code :: codes, after)
  | c :: rest =>
    if c.toNat < 0x20 ∨ c = '\\' then none
    else do
      let (codes, after) ← scanCodes rest
      some (c.toNat :: codes, after)

/-- Whether a code is the first half of a surrogate pair. -/
def isHigh (code : Nat) : Bool := 0xD800 ≤ code && code < 0xDC00

/-- Whether a code is the second half of a surrogate pair. -/
def isLow (code : Nat) : Bool := 0xDC00 ≤ code && code < 0xE000

/-- The characters that codes stand for, two surrogates for one character;
none if a surrogate lacks its partner. -/
def decodeCodes : List Nat → Option (List Char)
  | [] => some []
  | [code] => if isHigh code || isLow code then none else some [Char.ofNat code]
  | code :: next :: rest =>
    if isHigh code then
      if isLow next then
        (decodeCodes rest).map
          (Char.ofNat (0x10000 + (code - 0xD800) * 0x400 + (next - 0xDC00)) :: ·)
      else none
    else if isLow code then none
    else (decodeCodes (next :: rest)).map (Char.ofNat code :: ·)

/-- A string after its opening quote. -/
def scanString (cs : List Char) : Option (Lexeme × List Char) := do
  let (codes, rest) ← scanCodes cs
  some (.string ((decodeCodes codes).map String.ofList), rest)

/-! ## §4 The scan -/

/-- The blanks of JSON. -/
def isBlank (c : Char) : Bool :=
  c == ' ' || c == '\t' || c == '\n' || c == '\r'

/-- The lexeme that begins with a character that is not blank, and the rest. -/
def next? : List Char → Option (Lexeme × List Char)
  | '{' :: rest => some (openBrace, rest)
  | '}' :: rest => some (closeBrace, rest)
  | '[' :: rest => some (openBracket, rest)
  | ']' :: rest => some (closeBracket, rest)
  | ',' :: rest => some (comma, rest)
  | ':' :: rest => some (colon, rest)
  | 'n' :: 'u' :: 'l' :: 'l' :: rest => some (null, rest)
  | 't' :: 'r' :: 'u' :: 'e' :: rest => some (bool true, rest)
  | 'f' :: 'a' :: 'l' :: 's' :: 'e' :: rest => some (bool false, rest)
  | '"' :: rest => scanString rest
  | '-' :: rest => scanNumber true rest
  | c :: rest => if c.isDigit then scanNumber false (c :: rest) else none
  | [] => none

/-- The lexemes of a text; `fuel` bounds the number of steps. -/
def scanWithin : Nat → List Char → List Lexeme
  | 0, _ => []
  | _ + 1, [] => []
  | fuel + 1, c :: rest =>
    if isBlank c then scanWithin fuel rest
    else
      match next? (c :: rest) with
      | some (lexeme, after) => lexeme :: scanWithin fuel after
      | none => [bad]

/-- The lexemes of a text. Every step takes a character, so the length of the
text bounds their number. -/
def scan (text : String) : List Lexeme :=
  let cs := text.toList
  scanWithin cs.length cs

end Lexeme

end Surrogates.Json
