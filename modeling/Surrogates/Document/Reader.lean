/-
Surrogates.Document.Reader — typed reading of JSON documents.

A reader takes a value of one kind from the front of the lexemes, and the
first fault in the order of the text ends the reading. A document is read up
to the end of its first value; what follows it is not looked at.

Records are written as objects, or as arrays of their fields in order. A
`Field` says how one field is read into the record; `record` reads a record
from the list of its fields.
-/
import Surrogates.Document.Fault

namespace Surrogates.Document

open Json (Lexeme)

/-- Takes a value from the front of the lexemes. -/
abbrev Reader (α : Type) := List Lexeme → Except Fault (α × List Lexeme)

/-! ## §1 Kinds of values -/

/-- The kind of the value that comes next, if it is one. A number has to be in
range and a string has to have characters. -/
def found? : List Lexeme → Option Found
  | .null :: _ => some .null
  | .bool value :: _ => some (.bool value)
  | .number text :: _ => text.value?.map .number
  | .string content :: _ => content.map .string
  | .openBracket :: _ => some .sequence
  | .openBrace :: _ => some .map
  | _ => none

/-- The fault of a value that is not what is expected. -/
def mismatch (expected : Expected) (lexemes : List Lexeme) : Fault :=
  match found? lexemes with
  | some found => .misfit [] (.wrongType found expected)
  | none => .malformed

/-- A fault at the value itself. -/
def misfit {α : Type} (m : Misfit) : Except Fault α :=
  .error (.misfit [] m)

/-- Reads a part of a value; its faults get the step that leads to it. -/
def descend {α : Type} (step : Step) (read : Reader α) : Reader α := fun lexemes =>
  (read lexemes).mapError (·.within step)

/-! ## §2 Scalars -/

/-- Reads a string. -/
def string : Reader String
  | .string (some value) :: rest => .ok (value, rest)
  | lexemes => .error (mismatch .string lexemes)

/-- Reads a boolean. -/
def boolean : Reader Bool
  | .bool value :: rest => .ok (value, rest)
  | lexemes => .error (mismatch .boolean lexemes)

/-- Reads `null`. -/
def unit : Reader Unit
  | .null :: rest => .ok ((), rest)
  | lexemes => .error (mismatch .unit lexemes)

/-- Reads a string that a reader of its own takes. -/
def parsed {α : Type} (parse : String → Except String α) : Reader α := fun lexemes => do
  let (text, rest) ← string lexemes
  match parse text with
  | .ok value => .ok (value, rest)
  | .error message => misfit (.refused message)

/-! ## §3 Sequences -/

/-- Reads the items of an array from the next one on, the first of which has the
given index. -/
def items {α : Type} (item : Reader α) : Nat → Nat → Reader (List α)
  | 0, _, _ => .error .malformed
  | fuel + 1, index, lexemes => do
    let (first, rest) ← descend (.index index) item lexemes
    match rest with
    | .closeBracket :: rest => .ok ([first], rest)
    | .comma :: .closeBracket :: _ => .error .malformed
    | .comma :: rest => do
      let (more, rest) ← items item fuel (index + 1) rest
      .ok (first :: more, rest)
    | _ => .error .malformed

/-- Reads an array. -/
def sequence {α : Type} (item : Reader α) : Reader (List α)
  | .openBracket :: .closeBracket :: rest => .ok ([], rest)
  | .openBracket :: rest => items item rest.length 0 rest
  | lexemes => .error (mismatch .sequence lexemes)

/-! ## §4 Values that are skipped -/

/-- A bracket that is open while a value is skipped. -/
inductive Open where
  | bracket
  | brace
  deriving DecidableEq

/-- What a skipped value may go on with. -/
inductive Expecting where
  /-- A value. -/
  | value
  /-- A value, or the end of the array that was just opened. -/
  | item
  /-- A key. -/
  | key
  /-- A key, or the end of the object that was just opened. -/
  | member
  /-- The colon behind a key. -/
  | colon
  /-- A comma or the end of what is open. -/
  | more
  deriving DecidableEq

/-- What follows the first lexeme of a value. -/
def skipFirst (stack : List Open) : Lexeme → Option (Expecting × List Open)
  | .openBracket => some (.item, .bracket :: stack)
  | .openBrace => some (.member, .brace :: stack)
  | .null => some (.more, stack)
  | .bool _ => some (.more, stack)
  | .number _ => some (.more, stack)
  | .string _ => some (.more, stack)
  | _ => none

/-- What follows a lexeme of a skipped value; `stack` lists what is open. -/
def skipNext : Expecting → List Open → Lexeme → Option (Expecting × List Open)
  | .more, .bracket :: stack, .closeBracket => some (.more, stack)
  | .more, .brace :: stack, .closeBrace => some (.more, stack)
  | .more, .bracket :: stack, .comma => some (.value, .bracket :: stack)
  | .more, .brace :: stack, .comma => some (.key, .brace :: stack)
  | .item, .bracket :: stack, .closeBracket => some (.more, stack)
  | .member, .brace :: stack, .closeBrace => some (.more, stack)
  | .member, stack, .string _ => some (.colon, stack)
  | .key, stack, .string _ => some (.colon, stack)
  | .colon, stack, .colon => some (.value, stack)
  | .value, stack, lexeme => skipFirst stack lexeme
  | .item, stack, lexeme => skipFirst stack lexeme
  | _, _, _ => none

/-- Skips a value of any kind, however deep. -/
def skipValue : Expecting → List Open → List Lexeme → Option (List Lexeme)
  | .more, [], lexemes => some lexemes
  | expecting, stack, lexeme :: rest => do
    let (expecting, stack) ← skipNext expecting stack lexeme
    skipValue expecting stack rest
  | _, _, [] => none

/-- Reads a value of any kind and forgets it. -/
def skipped : Reader Unit := fun lexemes =>
  match skipValue .value [] lexemes with
  | some rest => .ok ((), rest)
  | none => .error .malformed

/-! ## §5 Records -/

/-- A field of a record: its name, whether it has to be there, and how its
value is read into the record. -/
structure Field (σ : Type) where
  name : String
  isRequired : Bool
  read : σ → Reader σ

namespace Field

/-- A field that has to be there. -/
def required {σ α : Type} (name : String) (reader : Reader α) (set : σ → α → σ) : Field σ :=
  ⟨name, true, fun record lexemes => (reader lexemes).map fun (value, rest) => (set record value, rest)⟩

/-- A field that keeps its default if it is not there. -/
def optional {σ α : Type} (name : String) (reader : Reader α) (set : σ → α → σ) : Field σ :=
  ⟨name, false, fun record lexemes => (reader lexemes).map fun (value, rest) => (set record value, rest)⟩

end Field

/-- A record: its name, its fields in order, and whether it refuses keys that
are no fields. -/
structure Layout (σ : Type) where
  name : String
  strict : Bool
  fields : List (Field σ)

namespace Layout

variable {σ : Type} (layout : Layout σ)

/-- The names of the fields. -/
def names : List String :=
  layout.fields.map (·.name)

/-- The end of an array of fields, behind the last field. -/
def endArray (record : σ) : Reader σ
  | .closeBracket :: rest => .ok (record, rest)
  | .comma :: .closeBracket :: _ => .error .malformed
  | [] => .error .malformed
  | _ => misfit .tooLong

/-- Reads fields from an array, the first of which has the given index. Fields
that have defaults may be missing at the end. -/
def readArray : Nat → List (Field σ) → σ → Reader σ
  | _, [], record, lexemes => endArray record lexemes
  | index, field :: more, record, lexemes =>
    match lexemes with
    | .closeBracket :: rest =>
      if field.isRequired then
        misfit (.tooShort index layout.name layout.fields.length)
      else readArray (index + 1) more record (.closeBracket :: rest)
    | lexemes => do
      let lexemes ←
        if index = 0 then .ok lexemes
        else
          match lexemes with
          | .comma :: .closeBracket :: _ => .error .malformed
          | .comma :: rest => .ok rest
          | _ => .error .malformed
      let (record, rest) ← descend (.index index) (field.read record) lexemes
      readArray (index + 1) more record rest

/-- The record of an object that has ended: no required field may be missing. -/
def finish (seen : List String) (record : σ) (rest : List Lexeme) :
    Except Fault (σ × List Lexeme) :=
  match layout.fields.find? fun field => field.isRequired && !seen.contains field.name with
  | some field => misfit (.missingField field.name)
  | none => .ok (record, rest)

/-- Reads the value of a key behind its colon. -/
def readMember (key : String) (seen : List String) (record : σ) (lexemes : List Lexeme) :
    Except Fault ((List String × σ) × List Lexeme) :=
  let value {α : Type} (reader : Reader α) : Except Fault (α × List Lexeme) :=
    match lexemes with
    | .colon :: rest => descend (.key key) reader rest
    | _ => .error .malformed
  match layout.fields.find? (·.name == key) with
  | some field =>
    if seen.contains key then misfit (.duplicateField key)
    else (value (field.read record)).map fun (record, rest) => ((key :: seen, record), rest)
  | none =>
    if layout.strict then .error (.misfit [.key key] (.unknownField key layout.names))
    else (value skipped).map fun (_, rest) => ((seen, record), rest)

/-- Reads the members of an object from the first key on. -/
def readMembers : Nat → List String → σ → Reader σ
  | fuel + 1, seen, record, .string (some key) :: rest => do
    let ((seen, record), rest) ← layout.readMember key seen record rest
    match rest with
    | .closeBrace :: rest => layout.finish seen record rest
    | .comma :: rest => readMembers fuel seen record rest
    | _ => .error .malformed
  | _, _, _, _ => .error .malformed

/-- Reads a record into one that has its defaults. -/
def read (blank : σ) : Reader σ
  | .openBracket :: rest => layout.readArray 0 layout.fields blank rest
  | .openBrace :: .closeBrace :: rest => layout.finish [] blank rest
  | .openBrace :: rest => layout.readMembers rest.length [] blank rest
  | lexemes => .error (mismatch (.record layout.name) lexemes)

end Layout

/-! ## §6 Variants -/

/-- The value of a variant's name, or the fault that no variant has it. -/
def variant {α : Type} (variants : List (String × α)) (name : String) : Except Fault α :=
  match variants.lookup name with
  | some value => .ok value
  | none => misfit (.unknownVariant name (variants.map Prod.fst))

/-- Reads a variant without parts: its name, or an object of its name with
`null`. Anything else is no JSON for it. -/
def enumeration {α : Type} (variants : List (String × α)) : Reader α
  | .string (some name) :: rest => (variant variants name).map (·, rest)
  | .openBrace :: .string (some name) :: rest => do
    let value ← variant variants name
    match rest with
    | .colon :: rest => do
      let (_, rest) ← descend (.key name) unit rest
      match rest with
      | .closeBrace :: rest => .ok (value, rest)
      | _ => .error .malformed
    | _ => .error .malformed
  | _ => .error .malformed

/-! ## §7 Documents -/

/-- Reads the first value of a text. -/
def read {α : Type} (reader : Reader α) (text : String) : Except Fault α :=
  (reader (Json.Lexeme.scan text)).map Prod.fst

end Surrogates.Document
