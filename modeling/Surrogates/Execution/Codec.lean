/-
Surrogates.Execution.Codec — hand-written serializers of values.

A codec is a pair of functions on values. Here are codecs for common needs;
each says in its words which values it refuses.
-/
import Surrogates.Execution.Failure
import Surrogates.Json.Reader

namespace Surrogates.Execution

/-- A hand-written serializer. -/
structure Codec where
  encode : Json → Result Json
  decode : Json → Result Json

namespace Codec

/-- The function of a codec for a direction. -/
def run (codec : Codec) : Direction → Json → Result Json
  | .encode => codec.encode
  | .decode => codec.decode

/-! ## §1 Numbers and texts -/

/-- Adds to an integer of 64 bits with a sign. -/
def addInt (n : Int) (value : Json) : Result Json :=
  match value.asInt64? with
  | none => .error (.refused ("not an integer: " ++ value.render))
  | some m =>
    if Json.isInt64 (m + n) then .ok (.ofInt (m + n))
    else .error (.refused "overflow")

/-- Shifts integers by a number, and back. -/
def shift (n : Int) : Codec := ⟨addInt n, addInt (-n)⟩

/-- Changes the characters of a string. -/
def mapString (f : Char → Char) : Json → Result Json
  | .string text => .ok (.string (text.map f))
  | value => .error (.refused ("not a string: " ++ value.render))

/-- Writes the letters of ASCII in upper case, and reads them in lower case. -/
def upperCase : Codec := ⟨mapString Char.toUpper, mapString Char.toLower⟩

/-! ## §2 Values in other values -/

/-- Puts a value into an object under the key `wrapped`. -/
def wrapped : Codec where
  encode value := .ok (.object [("wrapped", value)])
  decode value :=
    match value.get? "wrapped" with
    | some inner => .ok inner
    | none => .error (.refused ("not wrapped: " ++ value.render))

/-- Writes a value as the string of its JSON text. -/
def text : Codec where
  encode value := .ok (.string value.render)
  decode
    | .string source =>
      match Json.parse source with
      | some value => .ok value
      | none => .error (.refused "not JSON text")
    | value => .error (.refused ("not a string: " ++ value.render))

/-! ## §3 Without regard to the value -/

/-- Gives `null` for every value. -/
def null : Codec := ⟨fun _ => .ok .null, fun _ => .ok .null⟩

/-- Refuses every value. -/
def failing : Codec :=
  ⟨fun _ => .error (.refused "encode failed"), fun _ => .error (.refused "decode failed")⟩

end Codec

end Surrogates.Execution
