/-
Surrogates.Plan.OfType — the plan of a type in a context.

The serializer attached to a field stands at the root of its plan. Below it,
and in a field without one, each node has the serializer that it resolves
to; a built-in container without one has the plans of its arguments. A plan
in which no serializer occurs is native as a whole, and so is a type of the
user without a serializer, whatever its arguments are.
-/
import Surrogates.Plan.Basic
import Surrogates.Resolution.Context

namespace Surrogates.Context

/-- The plan of a container over the plans of its arguments. -/
def planContainer (head : TypeName) (args : List Plan) : Plan :=
  if head.container?.isNone || args.all (·.isNative) then .native else .generic head args

mutual

/-- The plan of a type inside the type of a field. -/
def planNested (ctx : Context) : TypeExpr → Plan
  | .node head args nullable =>
    let core : Plan := match ctx.resolveHead head with
      | some serializer => .use serializer
      | none => planContainer head (ctx.planArgs args)
    core.withNull nullable

/-- The plans of a list of types inside the type of a field. -/
def planArgs (ctx : Context) : List TypeExpr → List Plan
  | [] => []
  | arg :: rest => ctx.planNested arg :: ctx.planArgs rest

end

/-- The plan of a field's type with the serializer attached to the field. -/
def planField (ctx : Context) (type : TypeExpr) (attached : Option Serializer) : Plan :=
  let core : Plan := match attached with
    | some serializer => .use serializer
    | none => planContainer type.head (ctx.planArgs type.args)
  core.withNull type.nullable

end Surrogates.Context
