/-
Surrogates.Proofs.Resolution.Context — what a node or a field resolves to.

A serializer that is resolved is one of the overrides, or it is derived for the
head (`resolve_eq_some`, `resolveField_eq_some`). In a context with the overrides
of an entry the overrides are explicit and the entry names them: `resolve_cases`,
`resolveField_cases`.
-/
import Surrogates.Proofs.Resolution.Overrides
import Surrogates.Proofs.TypeName.Suffixed
import Surrogates.Resolution.Context

namespace Surrogates

namespace Context

variable {ctx : Context} {entry : Entry} {s : Serializer}

/-- Serializers are derived for declared types that are neither built in nor
native. -/
theorem needsDerived_iff {type : TypeName} :
    ctx.needsDerived type = true ↔ type.isBuiltin = false ∧ ctx.catalog.declares type = true ∧
      ctx.catalog.isNative type = false := by
  simp only [needsDerived, Bool.and_eq_true, Bool.not_eq_true', and_assoc]

/-- A serializer of a node is an override, or it is derived for the head. -/
theorem resolve_eq_some {node : TypeExpr} (h : ctx.resolve node = some s) :
    ctx.overrides.types.get? node.head = some s ∨
      (ctx.needsDerived node.head = true ∧ s = ctx.naming.serializer node.head) := by
  unfold resolve resolveHead at h
  split at h
  · next found hget =>
    cases h
    exact .inl hget
  · split at h
    · next hneeds => exact .inr ⟨hneeds, (Option.some.inj h).symm⟩
    · cases h

/-- A serializer of a field is an override, or that of the field's type. -/
theorem resolveField_eq_some {owner : TypeName} {field : String} {type : TypeExpr}
    (h : ctx.resolveField owner field type = some s) :
    ctx.overrides.fields.get? (owner, field) = some s ∨ ctx.resolve type = some s := by
  unfold resolveField at h
  split at h
  · next found hget =>
    cases h
    exact .inl hget
  · exact .inr h

theorem resolve_cases (hdeclared : ctx.overrides.DeclaredBy entry) {node : TypeExpr}
    (h : ctx.resolve node = some s) :
    s = ctx.naming.serializer node.head ∨ ∃ name ∈ entry.overrideNames, s = .explicit name := by
  rcases resolve_eq_some h with hget | ⟨-, hderived⟩
  · exact .inr (hdeclared.mem_overrideNames_of_types hget)
  · exact .inl hderived

theorem resolveField_cases (hdeclared : ctx.overrides.DeclaredBy entry) {owner : TypeName}
    {field : String} {type : TypeExpr} (h : ctx.resolveField owner field type = some s) :
    s = ctx.naming.serializer type.head ∨ ∃ name ∈ entry.overrideNames, s = .explicit name := by
  rcases resolveField_eq_some h with hget | htype
  · exact .inr (hdeclared.mem_overrideNames_of_fields hget)
  · exact resolve_cases hdeclared htype

end Context

end Surrogates
