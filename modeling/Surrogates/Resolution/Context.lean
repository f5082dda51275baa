/-
Surrogates.Resolution.Context — which serializer a type has.

A context belongs to one entry: a catalog, the naming, and the overrides of
the entry. A field has, in this order: its own override, the override of its
type's head, the serializer derived for a declared type that does not
serialize by itself, or none. Nodes inside a field's type have no override
of their own.
-/
import Surrogates.Catalog.Basic
import Surrogates.Resolution.Overrides
import Surrogates.TypeName.Builtin

namespace Surrogates

/-- What decides the serializers of one entry. -/
structure Context where
  catalog : Catalog
  naming : Naming
  overrides : Overrides

namespace Context

/-- Whether a serializer is derived for a type: it is declared, neither built
in nor native. -/
def needsDerived (ctx : Context) (type : TypeName) : Bool :=
  !type.isBuiltin && ctx.catalog.declares type && !ctx.catalog.isNative type

/-- The serializer of a head without regard to a field. -/
def resolveHead (ctx : Context) (head : TypeName) : Option Serializer :=
  match ctx.overrides.types.get? head with
  | some serializer => some serializer
  | none => if ctx.needsDerived head then some (ctx.naming.serializer head) else none

/-- The serializer of a type without regard to a field. -/
def resolve (ctx : Context) (type : TypeExpr) : Option Serializer :=
  ctx.resolveHead type.head

/-- The serializer of a field. -/
def resolveField (ctx : Context) (owner : TypeName) (field : String) (type : TypeExpr) :
    Option Serializer :=
  match ctx.overrides.fields.get? (owner, field) with
  | some serializer => some serializer
  | none => ctx.resolve type

/-- The serializers of the nodes of a type, each once, in order of first
occurrence. -/
def collect (ctx : Context) (type : TypeExpr) : List Serializer :=
  (type.nodes.filterMap ctx.resolve).eraseDups

end Context

end Surrogates
