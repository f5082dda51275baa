/-
Surrogates.Unit.Basic — what is generated for one target type.

A unit holds a surrogate with the target's eligible fields, and a serializer
that copies the fields from the target to the surrogate and back.
-/
import Surrogates.Plan.Basic
import Surrogates.TypeExpr.Basic

namespace Surrogates

/-- A field of a surrogate. -/
structure SurrogateField where
  name : String
  type : TypeExpr
  /-- The serializer attached to the field itself. -/
  attached : Option Serializer
  plan : Plan
  deriving Inhabited

/-- The type that stands for a target when it is serialized. -/
structure SurrogateType where
  name : TypeName
  fields : List SurrogateField
  /-- The serializers inside the fields' types that are attached to no field. -/
  fileScope : List Serializer
  deriving Inhabited

/-- A copy of fields by name. -/
structure Conversion where
  source : TypeName
  destination : TypeName
  fields : List String
  deriving DecidableEq, Repr, Inhabited

/-- A serializer by way of a surrogate. -/
structure MappedSerializer where
  name : TypeName
  toSurrogate : Conversion
  fromSurrogate : Conversion
  /-- The fields of the target that the surrogate does not have. -/
  omitted : List String
  /-- The serializers that the fields of the surrogate need. -/
  imports : List Serializer
  deriving DecidableEq, Repr, Inhabited

/-- What is generated for one target. -/
structure SurrogateUnit where
  target : TypeName
  surrogate : SurrogateType
  serializer : MappedSerializer
  deriving Inhabited

end Surrogates
