/-
Surrogates.Unit.Synthesis — the unit of a target in a context.

The declared fields are split by visibility, both parts in order. Serializers
that the fields' types need and that are attached to no field have the scope
of the file; the imports are those attached, in order of their first field,
and then those of the file.
-/
import Surrogates.Plan.OfType
import Surrogates.Unit.Basic

namespace Surrogates.Context

/-- A field of a target's surrogate. -/
def surrogateField (ctx : Context) (target : TypeName) (field : FieldDecl) : SurrogateField :=
  let attached := ctx.resolveField target field.name field.type
  ⟨field.name, field.type, attached, ctx.planField field.type attached⟩

/-- The serializers attached to fields, each once, in order of first field. -/
def attachedTo (fields : List SurrogateField) : List Serializer :=
  (fields.filterMap (·.attached)).eraseDups

/-- The serializers that the types of fields need, each once, in order of first
occurrence. -/
def neededBy (ctx : Context) (fields : List FieldDecl) : List Serializer :=
  (fields.flatMap fun field => ctx.collect field.type).eraseDups

/-- The unit of a target with the declared fields; none if no field is
eligible. -/
def synthesize? (ctx : Context) (target : TypeName) (fields : List FieldDecl) :
    Option SurrogateUnit :=
  let eligible := fields.filter (·.visibility.isEligible)
  let omitted := fields.filter (!·.visibility.isEligible)
  if eligible.isEmpty then none
  else
    let surrogateFields := eligible.map (ctx.surrogateField target)
    let attached := attachedTo surrogateFields
    let fileScope := (ctx.neededBy eligible).filter (!attached.contains ·)
    let name := ctx.naming.surrogate target
    let names := surrogateFields.map (·.name)
    some
      { target
        surrogate := ⟨name, surrogateFields, fileScope⟩
        serializer :=
          { name := (ctx.naming.serializer target).name
            toSurrogate := ⟨target, name, names⟩
            fromSurrogate := ⟨name, target, names⟩
            omitted := omitted.map (·.name)
            imports := attached ++ fileScope } }

end Surrogates.Context
