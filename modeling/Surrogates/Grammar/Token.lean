/-
Surrogates.Grammar.Token — the tokens of type expressions.

Brackets come in pairs, so a bracketed part is one token, the group, with
tokens of its own. Keywords are words like any other; the grammar tells
them apart. A sign knows whether another sign follows without a gap,
because only such signs join: `::` is one separator, `: :` is none. A
lifetime and a literal keep only what the grammar asks of them.

`weight` counts the tokens with those inside of groups, and so bounds how
deep the parts of a text can be nested.
-/

namespace Surrogates.Grammar

/-! ## §1 Tokens -/

/-- The brackets that come in pairs. -/
inductive Delimiter where
  | paren
  | bracket
  | brace
  deriving DecidableEq, Repr

/-- A literal, as far as the grammar looks into it. -/
inductive Literal where
  /-- An integer: its value, and whether a suffix follows the digits. -/
  | integer (value : Nat) (suffixed : Bool)
  /-- A number with a point or an exponent, as it is written. -/
  | float (digits : List Char)
  | text
  | other
  deriving DecidableEq, Repr

/-- A token of a type expression. -/
inductive Token where
  /-- An identifier or keyword; a raw identifier keeps its `r#`. -/
  | word (text : String)
  | lifetime
  /-- A single quote that begins neither a lifetime nor a character. -/
  | apostrophe
  /-- A sign, and whether another sign follows at once. -/
  | sign (c : Char) (joint : Bool)
  | literal (value : Literal)
  | group (delimiter : Delimiter) (content : List Token)
  deriving Repr

/-- The signs. -/
def isSign (c : Char) : Bool :=
  "~!@#$%^&*-=+|;:,<.>/?'".toList.contains c

/-! ## §2 Weight -/

mutual

/-- The number of tokens in a token, itself included. -/
def Token.weight : Token → Nat
  | .group _ content => weights content + 1
  | _ => 1

/-- The number of tokens in a list, those inside of groups included. -/
def weights : List Token → Nat
  | [] => 0
  | token :: rest => token.weight + weights rest

end

end Surrogates.Grammar
