/-
Surrogates.Json.Value — JSON values.

A number is an integer within 64 bits, signed or unsigned, or a finite
binary floating point number. An object is a list of members in order; the
operations on it keep its keys distinct, and `Surrogates.Table.Assoc` says
how they order them.
-/
import Surrogates.Number.Binary64
import Surrogates.Table.Assoc

namespace Surrogates

/-- The number of a JSON text. -/
inductive Json.Number where
  | integer (value : Int)
  | real (value : Binary64)
  deriving DecidableEq, Repr, Inhabited

/-- A JSON value. -/
inductive Json where
  | null
  | bool (value : Bool)
  | number (value : Json.Number)
  | string (value : String)
  | array (items : List Json)
  | object (members : List (String × Json))
  deriving Repr, Inhabited

namespace Json

/-! ## §1 Views -/

/-- Whether a value is `null`. -/
def isNull : Json → Bool
  | null => true
  | _ => false

/-- The member of an object with the key. -/
def get? (key : String) : Json → Option Json
  | object members => Assoc.get? key members
  | _ => none

/-- Whether 64 bits with a sign hold an integer. -/
def isInt64 (n : Int) : Bool :=
  -9223372036854775808 ≤ n && n ≤ 9223372036854775807

/-- The value as an integer of 64 bits with a sign. -/
def asInt64? : Json → Option Int
  | number (.integer n) => if isInt64 n then some n else none
  | _ => none

mutual

/-- How deep arrays and objects are nested in a value. -/
def depth : Json → Nat
  | array items => depthOfItems items + 1
  | object members => depthOfMembers members + 1
  | null => 0
  | bool _ => 0
  | number _ => 0
  | string _ => 0

/-- The greatest depth among items. -/
def depthOfItems : List Json → Nat
  | [] => 0
  | item :: rest => max item.depth (depthOfItems rest)

/-- The greatest depth among the values of members. -/
def depthOfMembers : List (String × Json) → Nat
  | [] => 0
  | (_, item) :: rest => max item.depth (depthOfMembers rest)

end

/-! ## §2 Building -/

/-- The integer as a JSON value. -/
def ofInt (n : Int) : Json :=
  number (.integer n)

/-- The texts as a JSON array. -/
def ofStrings (texts : List String) : Json :=
  array (texts.map string)

/-- An integer of 64 bits, seen in a value, is the value. -/
theorem eq_ofInt_of_asInt64? {value : Json} {n : Int} (h : value.asInt64? = some n) :
    value = ofInt n ∧ isInt64 n = true := by
  unfold asInt64? at h
  split at h
  · split at h
    · next hin =>
      cases h
      exact ⟨rfl, hin⟩
    · cases h
  · cases h

end Json

end Surrogates
