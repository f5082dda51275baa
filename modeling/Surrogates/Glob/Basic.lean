/-
Surrogates.Glob.Basic — patterns of paths.

In the pattern of a name `?` stands for a character, `*` for any number of
them, and a class in brackets for one that it lists or, after `!`, does not
list. A pattern of paths has a pattern for each name; the component `**`
stands for any number of directories. Braces stand for themselves.
-/
import Surrogates.Files.Path

namespace Surrogates

/-! ## §1 Types -/

/-- Part of the pattern of a name. -/
inductive Glob.Token where
  | char (c : Char)
  | anyChar
  | anyChars
  /-- A character of one of the ranges. -/
  | within (ranges : List (Char × Char))
  /-- A character of none of the ranges. -/
  | without (ranges : List (Char × Char))
  deriving DecidableEq, Repr

/-- What a name in a path is to be. -/
inductive Glob.Component where
  | literal (name : String)
  | pattern (tokens : List Glob.Token)
  /-- The component `**`. -/
  | subdirectories
  deriving DecidableEq, Repr

/-- A pattern of paths. -/
structure Glob where
  /-- Whether paths start at the root. -/
  absolute : Bool
  components : List Glob.Component
  /-- Whether paths are to be directories: a slash ends the pattern. -/
  directoriesOnly : Bool
  deriving DecidableEq, Repr

namespace Glob

/-! ## §2 Names that match -/

/-- Whether a character is in one of the ranges. -/
def inRanges (ranges : List (Char × Char)) (c : Char) : Bool :=
  ranges.any fun (first, last) => first ≤ c && c ≤ last

/-- Whether a part of a pattern stands for a character. -/
def Token.accepts (c : Char) : Token → Bool
  | char d => d == c
  | anyChar => true
  | anyChars => true
  | within ranges => inRanges ranges c
  | without ranges => !inRanges ranges c

/-- A text without its first characters, for each number of them. -/
def suffixes : List Char → List (List Char)
  | [] => [[]]
  | c :: rest => (c :: rest) :: suffixes rest

/-- Whether parts of a pattern stand for a text. -/
def acceptsChars : List Token → List Char → Bool
  | [], chars => chars.isEmpty
  | .anyChars :: rest, chars => (suffixes chars).any (acceptsChars rest)
  | token :: rest, c :: chars => token.accepts c && acceptsChars rest chars
  | _ :: _, [] => false

/-- Whether a component stands for the name of an entry. -/
def Component.accepts (name : String) : Component → Bool
  | literal text => text == name
  | pattern tokens => acceptsChars tokens name.toList
  | subdirectories => true

/-! ## §3 Reading patterns -/

/-- What a class lists: ranges such as `a-z`, and characters. -/
def ranges : List Char → List (Char × Char)
  | first :: '-' :: last :: rest => (first, last) :: ranges rest
  | c :: rest => (c, c) :: ranges rest
  | [] => []

/-- The characters of a class up to its bracket, and the text behind it. The
first character is listed whatever it is. -/
def classBody? : List Char → Option (List Char × List Char)
  | [] => none
  | c :: rest =>
    match rest.dropWhile (· != ']') with
    | [] => none
    | _ :: behind => some (c :: rest.takeWhile (· != ']'), behind)

theorem length_behind_lt {chars body behind : List Char}
    (h : classBody? chars = some (body, behind)) : behind.length < chars.length := by
  cases chars with
  | nil => simp [classBody?] at h
  | cons c rest =>
    have hle := (List.dropWhile_sublist (l := rest) (· != ']')).length_le
    cases hd : rest.dropWhile (· != ']') with
    | nil => simp only [classBody?, hd, reduceCtorEq] at h
    | cons b tail =>
      simp only [classBody?, hd, Option.some.injEq, Prod.mk.injEq] at h
      simp only [hd, List.length_cons] at hle ⊢
      rw [← h.2]
      omega

/-- The parts of the pattern of a name. A class that is not closed and two stars
next to each other are refused. -/
def tokens? : List Char → Option (List Token)
  | [] => some []
  | '?' :: rest => (tokens? rest).map (.anyChar :: ·)
  | '*' :: '*' :: _ => none
  | '*' :: rest => (tokens? rest).map (.anyChars :: ·)
  | '[' :: '!' :: rest =>
    match h : classBody? rest with
    | some (body, behind) =>
      have := length_behind_lt h
      (tokens? behind).map (.without (ranges body) :: ·)
    | none => none
  | '[' :: rest =>
    match h : classBody? rest with
    | some (body, behind) =>
      have := length_behind_lt h
      (tokens? behind).map (.within (ranges body) :: ·)
    | none => none
  | c :: rest => (tokens? rest).map (.char c :: ·)
termination_by chars => chars.length
decreasing_by all_goals simp_all only [List.length_cons]; omega

/-- The character that a part stands for, if it stands for no other. -/
def Token.char? : Token → Option Char
  | char c => some c
  | _ => none

/-- The component that a text writes. -/
def Component.parse? (text : String) : Option Component :=
  if text = "**" then some .subdirectories
  else
    (tokens? text.toList).map fun tokens =>
      match tokens.mapM Token.char? with
      | some name => .literal (String.ofList name)
      | none => .pattern tokens

/-- Whether a text is taken as a pattern and not as a path. -/
def isGlob (text : String) : Bool :=
  text.toList.any ['*', '?', '[', '\x7b'].contains

/-- The texts of the components of a pattern: a slash at the start belongs to
none, and the empty text behind a slash at the end is none. -/
def componentTexts (text : String) : List String :=
  let texts := Files.pieces (if Files.isAbsolute text then String.ofList text.toList.tail else text)
  if texts.getLast? = some "" then texts.dropLast else texts

/-- The pattern that a text writes. -/
def parse? (text : String) : Option Glob := do
  let components ← (componentTexts text).mapM Component.parse?
  some ⟨Files.isAbsolute text, components, text.toList.getLast? == some '/'⟩

end Glob

end Surrogates
