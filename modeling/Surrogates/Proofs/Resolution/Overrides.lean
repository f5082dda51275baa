/-
Surrogates.Proofs.Resolution.Overrides — overrides are those that an entry
declares.

The tables of an entry hold nothing but explicit serializers under the types
and fields for which the entry declares them: `declaredBy_of_ofEntry`. They
exist if the entry overrides no type and no field twice (`isOk_ofEntry_iff`),
and then they hold all that it declares, in its order
(`entries_types_ofEntry`, `entries_fields_ofEntry`).
-/
import Surrogates.Resolution.Overrides

namespace Surrogates

/-- The serializers that an entry's overrides name. -/
def Entry.overrideNames (entry : Entry) : List TypeName :=
  entry.classOverrides.map (·.serializer) ++
    (Overrides.fieldDecls entry).map fun (_, decl) => decl.serializer

namespace Overrides

/-! ## §1 Adding one after another -/

/-- What every addition keeps is kept by all of them together. -/
theorem addAll_keeps {α : Type} (Kept : Overrides → Prop)
    {add : Overrides → α → Except DuplicateOverride Overrides} (decls : List α)
    {overrides : Overrides}
    (hadd : ∀ decl ∈ decls, ∀ before after, Kept before → add before decl = .ok after → Kept after)
    (h : Kept overrides) : Kept (addAll add overrides decls).2 := by
  induction decls generalizing overrides with
  | nil => exact h
  | cons decl rest ih =>
    have hrest := fun other hother => hadd other (List.mem_cons_of_mem _ hother)
    rw [addAll]
    split
    · next after hafter =>
      exact ih hrest (hadd decl (List.mem_cons_self ..) overrides after h hafter)
    · exact ih hrest h

theorem addAll_append {α : Type} {add : Overrides → α → Except DuplicateOverride Overrides}
    (overrides : Overrides) (decls more : List α) :
    addAll add overrides (decls ++ more) =
      ((addAll add overrides decls).1 ++ (addAll add (addAll add overrides decls).2 more).1,
        (addAll add (addAll add overrides decls).2 more).2) := by
  induction decls generalizing overrides with
  | nil => rfl
  | cons decl rest ih =>
    rw [List.cons_append, addAll, addAll]
    cases add overrides decl with
    | ok after => exact ih after
    | error duplicate => simp only [ih, List.cons_append]

theorem addAll_map {α β : Type} {add : Overrides → β → Except DuplicateOverride Overrides}
    (f : α → β) (overrides : Overrides) (decls : List α) :
    addAll add overrides (decls.map f) =
      addAll (fun overrides decl => add overrides (f decl)) overrides decls := by
  induction decls generalizing overrides with
  | nil => rfl
  | cons decl rest ih =>
    rw [List.map_cons, addAll, addAll]
    cases add overrides (f decl) with
    | ok after => exact ih after
    | error duplicate => simp only [ih overrides]

/-! ## §2 The overrides of an entry -/

/-- Every override is one that the entry declares. -/
structure DeclaredBy (overrides : Overrides) (entry : Entry) : Prop where
  types : ∀ type s, overrides.types.get? type = some s →
    ∃ decl ∈ entry.classOverrides, decl.type = type ∧ s = .explicit decl.serializer
  fields : ∀ owner field s, overrides.fields.get? (owner, field) = some s →
    ∃ decl, (owner, decl) ∈ fieldDecls entry ∧ decl.field = field ∧ s = .explicit decl.serializer

variable {entry : Entry}

theorem declaredBy_empty : empty.DeclaredBy entry where
  types type s h := by simp [empty, Table.get?_empty] at h
  fields owner field s h := by simp [empty, Table.get?_empty] at h

theorem declaredBy_addType {before after : Overrides} {decl : ClassOverride}
    (hdecl : decl ∈ entry.classOverrides) (h : before.DeclaredBy entry)
    (hadd : before.addType decl.type decl.serializer = .ok after) : after.DeclaredBy entry := by
  unfold addType at hadd
  split at hadd
  · cases hadd
  · cases hadd
    refine ⟨fun type s hget => ?_, h.fields⟩
    rw [Table.get?_insert] at hget
    split at hget
    · next heq => exact ⟨decl, hdecl, heq.symm, (Option.some.inj hget).symm⟩
    · exact h.types type s hget

theorem declaredBy_addField {before after : Overrides} {owner : TypeName} {decl : FieldOverride}
    (hdecl : (owner, decl) ∈ fieldDecls entry) (h : before.DeclaredBy entry)
    (hadd : before.addField owner decl.field decl.serializer = .ok after) :
    after.DeclaredBy entry := by
  unfold addField at hadd
  split at hadd
  · cases hadd
  · cases hadd
    refine ⟨h.types, fun other field s hget => ?_⟩
    rw [Table.get?_insert] at hget
    split at hget
    · next heq =>
      cases heq
      exact ⟨decl, hdecl, rfl, (Option.some.inj hget).symm⟩
    · exact h.fields other field s hget

/-- The overrides of an entry are those that it declares. -/
theorem declaredBy_of_ofEntry {overrides : Overrides} (h : ofEntry entry = .ok overrides) :
    overrides.DeclaredBy entry := by
  have htypes := addAll_keeps (·.DeclaredBy entry) entry.classOverrides
    (fun decl hdecl before after hbefore => declaredBy_addType hdecl hbefore) declaredBy_empty
  have hfields := addAll_keeps (·.DeclaredBy entry) (fieldDecls entry)
    (fun decl hdecl before after hbefore => declaredBy_addField hdecl hbefore) htypes
  unfold ofEntry at h
  dsimp only at h
  split at h
  · cases h
    exact hfields
  · cases h

/-- An entry is refused for at least one second override. -/
theorem ne_nil_of_ofEntry {duplicates : List DuplicateOverride}
    (h : ofEntry entry = .error duplicates) : duplicates ≠ [] := by
  unfold ofEntry at h
  dsimp only at h
  split at h
  · cases h
  · next hsome =>
    cases h
    exact hsome

theorem DeclaredBy.mem_overrideNames_of_types {overrides : Overrides}
    (h : overrides.DeclaredBy entry) {type : TypeName} {s : Serializer}
    (hget : overrides.types.get? type = some s) :
    ∃ name ∈ entry.overrideNames, s = .explicit name := by
  obtain ⟨decl, hdecl, -, rfl⟩ := h.types type s hget
  exact ⟨decl.serializer, List.mem_append_left _ (List.mem_map.mpr ⟨decl, hdecl, rfl⟩), rfl⟩

theorem DeclaredBy.mem_overrideNames_of_fields {overrides : Overrides}
    (h : overrides.DeclaredBy entry) {owner : TypeName} {field : String} {s : Serializer}
    (hget : overrides.fields.get? (owner, field) = some s) :
    ∃ name ∈ entry.overrideNames, s = .explicit name := by
  obtain ⟨decl, hdecl, -, rfl⟩ := h.fields owner field s hget
  exact ⟨decl.serializer, List.mem_append_right _ (List.mem_map.mpr ⟨(owner, decl), hdecl, rfl⟩),
    rfl⟩

/-! ## §3 What an entry may declare -/

section

variable {α κ : Type} [DecidableEq κ] {add : Overrides → α → Except DuplicateOverride Overrides}
  {table : Overrides → Table κ Serializer} {key : α → κ} {value : α → Serializer}

/-- An addition puts a declaration behind those in a table, unless the table has
its key. -/
structure AddsTo (add : Overrides → α → Except DuplicateOverride Overrides)
    (table : Overrides → Table κ Serializer) (key : α → κ) (value : α → Serializer) : Prop where
  refused : ∀ before decl, key decl ∈ (table before).keys →
    ∃ duplicate, add before decl = .error duplicate
  added : ∀ before decl, key decl ∉ (table before).keys →
    ∃ after, add before decl = .ok after ∧
      (table after).entries = (table before).entries ++ [(key decl, value decl)]

/-- All declarations are added if their keys are distinct and new. -/
theorem addAll_eq_nil_iff (hadd : AddsTo add table key value) {decls : List α}
    {overrides : Overrides} :
    (addAll add overrides decls).1 = [] ↔ ((table overrides).keys ++ decls.map key).Nodup := by
  induction decls generalizing overrides with
  | nil => simpa [addAll, Table.keys] using (table overrides).nodup
  | cons decl rest ih =>
    rw [addAll]
    by_cases hkey : key decl ∈ (table overrides).keys
    · obtain ⟨duplicate, hrefused⟩ := hadd.refused overrides decl hkey
      have hrepeated : ¬((table overrides).keys ++ (decl :: rest).map key).Nodup := fun h =>
        (List.nodup_append.mp h).2.2 _ hkey _ (List.mem_cons_self ..) rfl
      simp only [hrefused, hrepeated, reduceCtorEq]
    · obtain ⟨after, hadded, hentries⟩ := hadd.added overrides decl hkey
      have hkeys : (table after).keys = (table overrides).keys ++ [key decl] := by
        simp [Table.keys, Assoc.keys, hentries]
      simp only [hadded]
      rw [ih, hkeys, List.append_assoc, List.map_cons, List.singleton_append]

/-- Declarations that are all added stand behind those before, in order. -/
theorem entries_addAll (hadd : AddsTo add table key value) {decls : List α}
    {overrides : Overrides} (h : (addAll add overrides decls).1 = []) :
    (table (addAll add overrides decls).2).entries =
      (table overrides).entries ++ decls.map fun decl => (key decl, value decl) := by
  induction decls generalizing overrides with
  | nil => simp [addAll]
  | cons decl rest ih =>
    rw [addAll] at h ⊢
    by_cases hkey : key decl ∈ (table overrides).keys
    · obtain ⟨duplicate, hrefused⟩ := hadd.refused overrides decl hkey
      simp [hrefused] at h
    · obtain ⟨after, hadded, hentries⟩ := hadd.added overrides decl hkey
      simp only [hadded] at h ⊢
      rw [ih h, hentries, List.append_assoc, List.map_cons, List.singleton_append]

end

theorem addsTo_types : AddsTo (fun overrides (decl : ClassOverride) =>
    overrides.addType decl.type decl.serializer) (·.types) (·.type)
    (fun decl => .explicit decl.serializer) where
  refused before decl h :=
    ⟨.ofType decl.type, by rw [addType, if_pos (Table.contains_iff_mem_keys.mpr h)]⟩
  added before decl h := by
    refine ⟨_, by rw [addType, if_neg (mt Table.contains_iff_mem_keys.mp h)], ?_⟩
    exact Assoc.put_of_notMem _ h

theorem addsTo_fields : AddsTo (fun overrides (decl : TypeName × FieldOverride) =>
    overrides.addField decl.1 decl.2.field decl.2.serializer) (·.fields)
    (fun decl => (decl.1, decl.2.field)) (fun decl => .explicit decl.2.serializer) where
  refused before decl h :=
    ⟨.ofField decl.1 decl.2.field, by rw [addField, if_pos (Table.contains_iff_mem_keys.mpr h)]⟩
  added before decl h := by
    refine ⟨_, by rw [addField, if_neg (mt Table.contains_iff_mem_keys.mp h)], ?_⟩
    exact Assoc.put_of_notMem _ h

theorem fields_addType {before after : Overrides} {type serializer : TypeName}
    (h : before.addType type serializer = .ok after) : after.fields = before.fields := by
  unfold addType at h
  split at h
  · cases h
  · cases h
    rfl

/-- Overrides of types leave those of fields as they are. -/
theorem fields_addAll_addType (decls : List ClassOverride) (overrides : Overrides) :
    (addAll (fun overrides (decl : ClassOverride) =>
      overrides.addType decl.type decl.serializer) overrides decls).2.fields =
      overrides.fields := by
  refine addAll_keeps (fun after => after.fields = overrides.fields) decls ?_ rfl
  exact fun _ _ _ _ hbefore hadd => (fields_addType hadd).trans hbefore

theorem types_addField {before after : Overrides} {owner serializer : TypeName} {field : String}
    (h : before.addField owner field serializer = .ok after) : after.types = before.types := by
  unfold addField at h
  split at h
  · cases h
  · cases h
    rfl

/-- Overrides of fields leave those of types as they are. -/
theorem types_addAll_addField (decls : List (TypeName × FieldOverride)) (overrides : Overrides) :
    (addAll (fun overrides (owner, decl) =>
      overrides.addField owner decl.field decl.serializer) overrides decls).2.types =
      overrides.types := by
  refine addAll_keeps (fun after => after.types = overrides.types) decls ?_ rfl
  exact fun _ _ _ _ hbefore hadd => (types_addField hadd).trans hbefore

end Overrides

/-! ## §4 The tables of an entry -/

namespace Entry

/-- The types for which an entry names serializers. -/
def overriddenTypes (entry : Entry) : List TypeName :=
  entry.classOverrides.map (·.type)

/-- The fields for which an entry names serializers, each with the type that
owns it. -/
def overriddenFields (entry : Entry) : List (TypeName × String) :=
  (Overrides.fieldDecls entry).map fun (owner, decl) => (owner, decl.field)

/-- No type and no field has a second override. -/
def OverridesOnce (entry : Entry) : Prop :=
  entry.overriddenTypes.Nodup ∧ entry.overriddenFields.Nodup

instance (entry : Entry) : Decidable entry.OverridesOnce :=
  inferInstanceAs (Decidable (_ ∧ _))

end Entry

namespace Overrides

variable {entry : Entry}

/-- The tables of an entry exist exactly if it overrides nothing twice. -/
theorem isOk_ofEntry_iff :
    (∃ overrides, ofEntry entry = .ok overrides) ↔ entry.OverridesOnce := by
  have htypes : (addAll (fun overrides (decl : ClassOverride) =>
      overrides.addType decl.type decl.serializer) empty entry.classOverrides).1 = [] ↔
        entry.overriddenTypes.Nodup := addAll_eq_nil_iff addsTo_types
  have hfields : (addAll (fun overrides (owner, decl) =>
      overrides.addField owner decl.field decl.serializer)
        (addAll (fun overrides (decl : ClassOverride) =>
          overrides.addType decl.type decl.serializer) empty entry.classOverrides).2
        (fieldDecls entry)).1 = [] ↔ entry.overriddenFields.Nodup := by
    refine (addAll_eq_nil_iff addsTo_fields).trans ?_
    rw [fields_addAll_addType]
    rfl
  rw [Entry.OverridesOnce, ← htypes, ← hfields, ← List.append_eq_nil_iff]
  unfold ofEntry
  dsimp only
  split
  · next hnone => simp [hnone]
  · next hsome => exact iff_of_false (by simp) hsome

/-- The types of an entry's overrides stand as the entry declares them. -/
theorem entries_types_ofEntry {overrides : Overrides} (h : ofEntry entry = .ok overrides) :
    overrides.types.entries =
      entry.classOverrides.map fun decl => (decl.type, .explicit decl.serializer) := by
  unfold ofEntry at h
  dsimp only at h
  split at h
  · next hnone =>
    cases h
    rw [types_addAll_addField, entries_addAll addsTo_types (List.append_eq_nil_iff.mp hnone).1]
    rfl
  · cases h

/-- The fields of an entry's overrides stand as the entry declares them. -/
theorem entries_fields_ofEntry {overrides : Overrides} (h : ofEntry entry = .ok overrides) :
    overrides.fields.entries =
      (fieldDecls entry).map fun (owner, decl) =>
        ((owner, decl.field), .explicit decl.serializer) := by
  unfold ofEntry at h
  dsimp only at h
  split at h
  · next hnone =>
    cases h
    rw [entries_addAll addsTo_fields (List.append_eq_nil_iff.mp hnone).2, fields_addAll_addType]
    rfl
  · cases h

theorem isSome_types_iff {overrides : Overrides} (h : ofEntry entry = .ok overrides)
    {type : TypeName} :
    (overrides.types.get? type).isSome = true ↔ type ∈ entry.overriddenTypes := by
  rw [← Table.contains, Table.contains_iff_mem_keys, Table.keys, Assoc.keys,
    entries_types_ofEntry h, List.map_map]
  rfl

theorem isSome_fields_iff {overrides : Overrides} (h : ofEntry entry = .ok overrides)
    {owner : TypeName} {field : String} :
    (overrides.fields.get? (owner, field)).isSome = true ↔
      (owner, field) ∈ entry.overriddenFields := by
  rw [← Table.contains, Table.contains_iff_mem_keys, Table.keys, Assoc.keys,
    entries_fields_ofEntry h, List.map_map]
  rfl

end Overrides

end Surrogates
