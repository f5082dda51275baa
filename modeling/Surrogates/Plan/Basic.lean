/-
Surrogates.Plan.Basic — how a field is serialized, node by node.
-/
import Surrogates.Serializer

namespace Surrogates

/-- How the values of a type are serialized. -/
inductive Plan where
  /-- As the values are: no serializer is needed anywhere inside. -/
  | native
  /-- By a serializer. -/
  | use (serializer : Serializer)
  /-- `null` as it is, and other values by a plan. -/
  | nullable (inner : Plan)
  /-- The values inside a container by the plans of its arguments. -/
  | generic (head : TypeName) (args : List Plan)
  deriving Repr, Inhabited

namespace Plan

/-- Whether a plan leaves values as they are. -/
def isNative : Plan → Bool
  | native => true
  | _ => false

/-- The plan of a type that may be null, over the plan of the type. -/
def withNull (nullable : Bool) (plan : Plan) : Plan :=
  if nullable && !plan.isNative then .nullable plan else plan

mutual

/-- The serializers that a plan uses, from left to right. -/
def serializers : Plan → List Serializer
  | native => []
  | use serializer => [serializer]
  | nullable inner => inner.serializers
  | generic _ args => serializersOfArgs args

/-- The serializers that a list of plans uses. -/
def serializersOfArgs : List Plan → List Serializer
  | [] => []
  | plan :: rest => plan.serializers ++ serializersOfArgs rest

end

end Plan

end Surrogates
