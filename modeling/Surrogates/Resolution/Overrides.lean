/-
Surrogates.Resolution.Overrides — the overrides of one entry.

A type, or a field of a type, has at most one override. A second one is
refused and the first is kept; `ofEntry` reports every refusal, types before
fields, each in the order of the entry.
-/
import Surrogates.Serializer
import Surrogates.Table.Basic

namespace Surrogates

/-- A second override of what already has one. -/
inductive DuplicateOverride where
  | ofType (type : TypeName)
  | ofField (owner : TypeName) (field : String)
  deriving DecidableEq, Repr

/-- Serializers for types, and for fields by the type that owns them. -/
structure Overrides where
  types : Table TypeName Serializer
  fields : Table (TypeName × String) Serializer
  deriving Inhabited

namespace Overrides

/-- No overrides. -/
def empty : Overrides := ⟨∅, ∅⟩

/-- Adds a serializer for a type that has none. -/
def addType (overrides : Overrides) (type serializer : TypeName) :
    Except DuplicateOverride Overrides :=
  if overrides.types.contains type then .error (.ofType type)
  else .ok { overrides with types := overrides.types.insert type (.explicit serializer) }

/-- Adds a serializer for a field that has none. -/
def addField (overrides : Overrides) (owner : TypeName) (field : String) (serializer : TypeName) :
    Except DuplicateOverride Overrides :=
  if overrides.fields.contains (owner, field) then .error (.ofField owner field)
  else
    .ok { overrides with fields := overrides.fields.insert (owner, field) (.explicit serializer) }

/-- Adds what can be added, one after another; the refusals are kept in order. -/
def addAll {α : Type} (add : Overrides → α → Except DuplicateOverride Overrides) :
    Overrides → List α → List DuplicateOverride × Overrides
  | overrides, [] => ([], overrides)
  | overrides, decl :: rest =>
    match add overrides decl with
    | .ok overrides => addAll add overrides rest
    | .error duplicate =>
      let (duplicates, overrides) := addAll add overrides rest
      (duplicate :: duplicates, overrides)

/-- The field overrides of an entry, each with the type that owns the field. -/
def fieldDecls (entry : Entry) : List (TypeName × FieldOverride) :=
  entry.fieldOverrides.flatMap fun group => group.fields.map (group.type, ·)

/-- The overrides of an entry, or every override of what already has one. -/
def ofEntry (entry : Entry) : Except (List DuplicateOverride) Overrides :=
  let (ofTypes, overrides) :=
    addAll (fun overrides decl => overrides.addType decl.type decl.serializer) empty
      entry.classOverrides
  let (ofFields, overrides) :=
    addAll (fun overrides (owner, decl) => overrides.addField owner decl.field decl.serializer)
      overrides (fieldDecls entry)
  match ofTypes ++ ofFields with
  | [] => .ok overrides
  | duplicates => .error duplicates

end Overrides

end Surrogates
