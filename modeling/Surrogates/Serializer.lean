/-
Surrogates.Serializer — references to serializers, and the names that are
derived for them.

A serializer is named by an override, or derived from a type by a suffix.
A surrogate is named by a suffix too.
-/
import Surrogates.Configuration.Basic

namespace Surrogates

/-- Where the name of a serializer comes from. -/
inductive SerializerKind where
  /-- Named by an override. -/
  | explicit
  /-- Derived from the name of a type. -/
  | derived
  deriving DecidableEq, Repr, Inhabited

/-- A reference to a serializer. -/
structure Serializer where
  name : TypeName
  kind : SerializerKind
  deriving DecidableEq, Repr, Inhabited

namespace Serializer

/-- The serializer that an override names. -/
def explicit (name : TypeName) : Serializer := ⟨name, .explicit⟩

/-- The serializer of a derived name. -/
def derived (name : TypeName) : Serializer := ⟨name, .derived⟩

/-- Whether the name is derived. -/
def isDerived (s : Serializer) : Bool := s.kind == .derived

end Serializer

/-- The suffixes of surrogates and serializers. -/
structure Naming where
  surrogateSuffix : String
  serializerSuffix : String
  deriving DecidableEq, Repr, Inhabited

namespace Naming

/-- The suffixes among options. -/
def ofOptions (options : Options) : Naming :=
  ⟨options.surrogateSuffix, options.serializerSuffix⟩

/-- The name of the surrogate of a type. -/
def surrogate (naming : Naming) (type : TypeName) : TypeName :=
  type.withSuffix naming.surrogateSuffix

/-- The serializer derived from a type. -/
def serializer (naming : Naming) (type : TypeName) : Serializer :=
  .derived (type.withSuffix naming.serializerSuffix)

end Naming

end Surrogates
