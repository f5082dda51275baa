/-
Surrogates.Registration — modules, which list the serializers of types.
-/
import Surrogates.Serializer

namespace Surrogates

/-- A type and the serializer registered for it. -/
structure Registration where
  target : TypeName
  serializer : Serializer
  deriving DecidableEq, Repr, Inhabited

/-- The registrations of one entry. -/
structure SerializerModule where
  name : String
  entry : String
  pairs : List Registration
  deriving DecidableEq, Repr, Inhabited

/-- The module of the registrations whose types are not excluded, in order;
none if no registration is left. -/
def SerializerModule.of? (name entry : String) (pairs : List Registration)
    (excluded : List TypeName) : Option SerializerModule :=
  match pairs.filter (!excluded.contains ·.target) with
  | [] => none
  | pairs => some ⟨name, entry, pairs⟩

/-- A module has no other registrations than those it is made of. -/
theorem SerializerModule.mem_of_mem_pairs {name entry : String} {pairs : List Registration}
    {excluded : List TypeName} {spec : SerializerModule}
    (h : of? name entry pairs excluded = some spec) {pair : Registration}
    (hpair : pair ∈ spec.pairs) : pair ∈ pairs := by
  unfold of? at h
  split at h
  · cases h
  · cases h
    exact (List.mem_filter.mp hpair).1

end Surrogates
