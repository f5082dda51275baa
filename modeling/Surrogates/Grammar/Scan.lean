/-
Surrogates.Grammar.Scan — the tokens of the text of a type expression.

Blanks and comments separate tokens. A documentation comment is not skipped:
it stands for the attribute `#[doc = "…"]`, which the grammar admits only
where it admits attributes. Brackets have to close in pairs, and what is
between them becomes one token; a text where they do not, or with a
character that begins no token, has no tokens at all. A byte order mark in
front is left out.
-/
import Surrogates.Grammar.LiteralScan
import Surrogates.Text.Blank

namespace Surrogates.Grammar.Scan

open Text LiteralScan

/-! ## §1 Comments -/

/-- The text up to the end of the line, and the rest, the end of the line
included. A carriage return belongs to the end only before a line feed. -/
def splitLine : List Char → List Char × List Char
  | [] => ([], [])
  | '\n' :: rest => ([], '\n' :: rest)
  | '\r' :: '\n' :: rest => ([], '\n' :: rest)
  | c :: rest =>
    let (line, after) := splitLine rest
    (c :: line, after)

/-- The text up to the end of a block comment, put before `taken` in reverse,
and the text behind the end; comments nest, and `depth` of them are open. -/
def splitBlock : Nat → List Char → List Char → Option (List Char × List Char)
  | depth, taken, '/' :: '*' :: rest => splitBlock (depth + 1) ('*' :: '/' :: taken) rest
  | depth, taken, '*' :: '/' :: rest =>
    if depth ≤ 1 then some (taken.reverse, rest)
    else splitBlock (depth - 1) ('/' :: '*' :: taken) rest
  | depth, taken, c :: rest => splitBlock depth (c :: taken) rest
  | _, _, [] => none

/-- Whether every carriage return of a text stands before a line feed. -/
def returnsPaired : List Char → Bool
  | [] => true
  | '\r' :: '\n' :: rest => returnsPaired rest
  | '\r' :: _ => false
  | _ :: rest => returnsPaired rest

/-- What a text has in front of its next token. -/
inductive Gap where
  /-- A blank or a comment; the rest follows. -/
  | skip (rest : List Char)
  /-- A documentation comment, inside or before what it documents. -/
  | documentation (inner : Bool) (rest : List Char)
  /-- A comment without end, or documentation with a lone carriage return. -/
  | broken
  | nothing

/-- The gap of a documentation comment. -/
def documented (inner : Bool) (comment rest : List Char) : Gap :=
  if returnsPaired comment then .documentation inner rest else .broken

/-- The gap at the front of a text. -/
def gap : List Char → Gap
  | '/' :: '/' :: '!' :: rest => line true rest
  | '/' :: '/' :: '/' :: '/' :: rest => .skip (splitLine rest).2
  | '/' :: '/' :: '/' :: rest => line false rest
  | '/' :: '/' :: rest => .skip (splitLine rest).2
  | '/' :: '*' :: '*' :: '/' :: rest => .skip rest
  | '/' :: '*' :: '!' :: rest => block (some true) rest
  | '/' :: '*' :: '*' :: '*' :: rest => block none ('*' :: '*' :: rest)
  | '/' :: '*' :: '*' :: rest => block (some false) rest
  | '/' :: '*' :: rest => block none rest
  | c :: rest => if isBlank c then .skip rest else .nothing
  | [] => .nothing
where
  /-- A documentation comment to the end of its line. -/
  line (inner : Bool) (rest : List Char) : Gap :=
    let (comment, after) := splitLine rest
    documented inner comment after
  /-- A block comment, its opening taken; with a value it is documentation. -/
  block (inner? : Option Bool) (rest : List Char) : Gap :=
    match splitBlock 1 [] rest, inner? with
    | some (comment, after), some inner => documented inner comment after
    | some (_, after), none => .skip after
    | none, _ => .broken

/-! ## §2 Single tokens -/

/-- Whether a sign comes next; the first sign of a comment is none. -/
def startsSign : List Char → Bool
  | '/' :: '/' :: _ => false
  | '/' :: '*' :: _ => false
  | c :: _ => isSign c
  | [] => false

/-- Words that have no raw form. -/
def neverRaw : List String :=
  ["_", "super", "self", "Self", "crate"]

/-- The starts of literals that are no words if the literal is faulty. -/
def literalStarts : List (List Char) :=
  ["r\"", "r#\"", "r##", "b\"", "b\'", "br\"", "br#", "c\"", "cr\"", "cr#"].map String.toList

/-- A word, plain or raw, whatever it is the start of. -/
def anyWord? (cs : List Char) : Option (Token × List Char) :=
  match cs with
  | 'r' :: '#' :: rest => do
    let (name, after) ← word? rest
    let text := String.ofList name
    if neverRaw.contains text then none else some (.word ("r#" ++ text), after)
  | cs => (word? cs).map fun (name, after) => (.word (String.ofList name), after)

/-- A word that does not begin a faulty literal. -/
def identifier? (cs : List Char) : Option (Token × List Char) :=
  if literalStarts.any (·.isPrefixOf cs) then none else anyWord? cs

/-- Whether a quote may stand before a text: a word follows, and behind the
word neither another quote nor, unless the word is raw, a hash. -/
def followsQuote (cs : List Char) : Bool :=
  match anyWord? cs with
  | some (_, '\'' :: _) => false
  | some (_, '#' :: _) => ['r', '#'].isPrefixOf cs
  | some _ => true
  | none => false

/-- What a quote begins that is no character: a lifetime, or nothing if a
literal follows it. -/
def quote? (cs : List Char) : Option (Token × List Char) :=
  if followsQuote cs then
    match scan? cs with
    | some _ => some (.apostrophe, cs)
    | none => (identifier? cs).map fun (_, after) => (.lifetime, after)
  else none

/-- The text that stands for a token that could not be made out. -/
def unknownToken : List Char := "(/*ERROR*/)".toList

/-- A literal, a sign or a word. -/
def leaf? (cs : List Char) : Option (Token × List Char) :=
  match scan? cs with
  | some (value, rest) => some (.literal value, rest)
  | none =>
    match cs with
    | '\'' :: rest => quote? rest
    | c :: rest =>
      if startsSign cs then some (.sign c (startsSign rest), rest)
      else if unknownToken.isPrefixOf cs then some (.literal .other, cs.drop unknownToken.length)
      else identifier? cs
    | [] => none

/-- The opening bracket that a character is. -/
def opening? : Char → Option Delimiter
  | '(' => some .paren
  | '[' => some .bracket
  | '\x7b' => some .brace
  | _ => none

/-- The closing bracket that a character is. -/
def closing? : Char → Option Delimiter
  | ')' => some .paren
  | ']' => some .bracket
  | '\x7d' => some .brace
  | _ => none

/-- The attribute that a documentation comment stands for. -/
def documentation (inner : Bool) : List Token :=
  .sign '#' false :: (if inner then [.sign '!' false] else [])
    ++ [.group .bracket [.word "doc", .sign '=' false, .literal .text]]

/-! ## §3 The scan -/

/-- The tokens of a text. The groups that are open stand in `stack`, innermost
first, each with the tokens before it in reverse; `found` are the tokens since,
in reverse; `fuel` bounds the number of steps. -/
def tokensWithin :
    Nat → List (Delimiter × List Token) → List Token → List Char → Option (List Token)
  | _, [], found, [] => some found.reverse
  | _, _ :: _, _, [] => none
  | 0, _, _, _ => none
  | fuel + 1, stack, found, c :: rest =>
    match gap (c :: rest) with
    | .skip after => tokensWithin fuel stack found after
    | .documentation inner after =>
      tokensWithin fuel stack ((documentation inner).reverse ++ found) after
    | .broken => none
    | .nothing =>
      match opening? c, closing? c, stack with
      | some d, _, _ =>
        if unknownToken.isPrefixOf (c :: rest) then
          (leaf? (c :: rest)).bind fun (token, after) =>
            tokensWithin fuel stack (token :: found) after
        else tokensWithin fuel ((d, found) :: stack) [] rest
      | none, some d, (d', before) :: outer =>
        if d = d' then tokensWithin fuel outer (.group d found.reverse :: before) rest else none
      | none, some _, [] => none
      | none, none, _ =>
        (leaf? (c :: rest)).bind fun (token, after) =>
          tokensWithin fuel stack (token :: found) after

/-- The tokens of a text. Every step but that of a quote takes a character, and
a quote takes itself, so the length of the text bounds their number. -/
def tokens? (cs : List Char) : Option (List Token) :=
  let cs := match cs with
    | '\uFEFF' :: rest => rest
    | cs => cs
  tokensWithin cs.length [] [] cs

end Surrogates.Grammar.Scan
