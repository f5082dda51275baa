/-
Surrogates.Proofs.Resolution.Declarations — a context resolves as its entry
declares.

The tables of an entry are filled one declaration after another, and what has
its key in them already is refused. Refused are the repetitions of types, and
then those of fields (`duplicates_ofEntry`), and a pass reports each of them
(`rejections_eq`). Without repetitions the tables hold what the entry declares,
into however many groups it puts the fields of a type: a context with them
`Follows` the entry. Groups that builder calls make hold the calls, whichever
group each call goes to (`fieldDecls_overrideFields`). All this together is
`resolved_as_declared`.
-/
import Surrogates.Proofs.Generation.Pass
import Surrogates.Proofs.Resolution.Context
import Mathlib.Data.List.Induction

namespace Surrogates

namespace Overrides

/-! ## §1 What is refused -/

section

variable {α κ : Type} [DecidableEq κ] {add : Overrides → α → Except DuplicateOverride Overrides}
  {table : Overrides → Table κ Serializer} {key : α → κ} {value : α → Serializer}

/-- Whether it is added or refused, a declaration has its key in the table. -/
theorem mem_keys_addAll (hadd : AddsTo add table key value) {decls : List α}
    {overrides : Overrides} {k : κ} :
    k ∈ (table (addAll add overrides decls).2).keys ↔
      k ∈ (table overrides).keys ∨ k ∈ decls.map key := by
  induction decls generalizing overrides with
  | nil => simp [addAll]
  | cons decl rest ih =>
    rw [addAll, List.map_cons, List.mem_cons]
    by_cases hkey : key decl ∈ (table overrides).keys
    · obtain ⟨duplicate, hrefused⟩ := hadd.refused overrides decl hkey
      simp only [hrefused, ih]
      constructor
      · exact fun h => h.imp_right .inr
      · rintro (h | rfl | h)
        · exact .inl h
        · exact .inl hkey
        · exact .inr h
    · obtain ⟨after, hadded, hentries⟩ := hadd.added overrides decl hkey
      have hkeys : (table after).keys = (table overrides).keys ++ [key decl] := by
        simp [Table.keys, Assoc.keys, hentries]
      simp only [hadded, ih, hkeys, List.mem_append, List.mem_singleton, or_assoc]

/-- Of declarations added to an empty table the repetitions are refused. -/
theorem duplicates_addAll (hadd : AddsTo add table key value) {duplicate : κ → DuplicateOverride}
    (hrefused : ∀ before decl, key decl ∈ (table before).keys →
      add before decl = .error (duplicate (key decl)))
    {overrides : Overrides} (hempty : (table overrides).keys = []) (decls : List α) :
    (addAll add overrides decls).1 = (repetitions (decls.map key)).map duplicate := by
  -- what is refused of the last declaration depends on those before it
  induction decls using List.reverseRecOn with
  | nil => rfl
  | append_singleton decls decl ih =>
    have hmem : key decl ∈ (table (addAll add overrides decls).2).keys ↔
        key decl ∈ decls.map key := by
      rw [mem_keys_addAll hadd, hempty]
      simp
    rw [addAll_append, List.map_append, List.map_singleton, repetitions_concat, List.map_append,
      ih, List.append_cancel_left_eq]
    by_cases hkey : key decl ∈ decls.map key
    · rw [if_pos hkey, addAll, hrefused _ _ (hmem.mpr hkey)]
      rfl
    · obtain ⟨after, hadded, -⟩ := hadd.added _ _ (mt hmem.mp hkey)
      rw [if_neg hkey, addAll, hadded]
      rfl

end

variable {entry : Entry}

/-- Refused are the repetitions of types, and then those of fields. -/
theorem duplicates_ofEntry {duplicates : List DuplicateOverride}
    (h : ofEntry entry = .error duplicates) :
    duplicates = (repetitions entry.overriddenTypes).map .ofType ++
      (repetitions entry.overriddenFields).map fun (owner, field) => .ofField owner field := by
  have htypes : (addAll (fun overrides (decl : ClassOverride) =>
      overrides.addType decl.type decl.serializer) empty entry.classOverrides).1 =
        (repetitions entry.overriddenTypes).map .ofType := by
    refine duplicates_addAll addsTo_types (fun before decl hkey => ?_) rfl _
    rw [addType, if_pos (Table.contains_iff_mem_keys.mpr hkey)]
  have hfields : ∀ before, before.fields.keys = [] →
      (addAll (fun overrides (decl : TypeName × FieldOverride) =>
        overrides.addField decl.1 decl.2.field decl.2.serializer) before (fieldDecls entry)).1 =
        (repetitions entry.overriddenFields).map fun (owner, field) => .ofField owner field := by
    refine fun before hempty =>
      duplicates_addAll addsTo_fields (fun before decl hkey => ?_) hempty _
    rw [addField, if_pos (Table.contains_iff_mem_keys.mpr hkey)]
  unfold ofEntry at h
  dsimp only at h
  split at h
  · cases h
  · cases h
    refine congrArg₂ (· ++ ·) htypes (hfields _ ?_)
    rw [fields_addAll_addType]
    rfl

end Overrides

/-! ## §2 What is declared -/

/-- A context resolves fields and types as an entry declares: to the serializer
that the entry names, and else to that of the type, or to what is derived for a
declared type that is neither built in nor native. -/
structure Context.Follows (ctx : Context) (entry : Entry) : Prop where
  field : ∀ group ∈ entry.fieldOverrides, ∀ decl ∈ group.fields, ∀ type,
    ctx.resolveField group.type decl.field type = some (.explicit decl.serializer)
  otherField : ∀ owner field, (owner, field) ∉ entry.overriddenFields → ∀ type,
    ctx.resolveField owner field type = ctx.resolve type
  type : ∀ decl ∈ entry.classOverrides, ∀ type : TypeExpr, type.head = decl.type →
    ctx.resolve type = some (.explicit decl.serializer)
  otherType : ∀ type : TypeExpr, type.head ∉ entry.overriddenTypes →
    ctx.resolve type =
      if ctx.catalog.declares type.head && !type.head.isBuiltin &&
        !ctx.catalog.isNative type.head then some (ctx.naming.serializer type.head)
      else none

namespace Overrides

variable {entry : Entry} {overrides : Overrides}

theorem get?_types_of_mem (h : ofEntry entry = .ok overrides) {decl : ClassOverride}
    (hdecl : decl ∈ entry.classOverrides) :
    overrides.types.get? decl.type = some (.explicit decl.serializer) := by
  refine Assoc.get?_eq_some_of_mem overrides.types.nodup ?_
  rw [entries_types_ofEntry h]
  exact List.mem_map_of_mem hdecl

theorem get?_fields_of_mem (h : ofEntry entry = .ok overrides) {group : FieldOverrides}
    (hgroup : group ∈ entry.fieldOverrides) {decl : FieldOverride} (hdecl : decl ∈ group.fields) :
    overrides.fields.get? (group.type, decl.field) = some (.explicit decl.serializer) := by
  refine Assoc.get?_eq_some_of_mem overrides.fields.nodup ?_
  rw [entries_fields_ofEntry h]
  have hmem : (group.type, decl) ∈ fieldDecls entry :=
    List.mem_flatMap.mpr ⟨group, hgroup, List.mem_map_of_mem hdecl⟩
  exact List.mem_map_of_mem hmem

/-- With the tables of an entry a context follows the entry. -/
theorem follows_of_ofEntry (h : ofEntry entry = .ok overrides) (catalog : Catalog)
    (naming : Naming) : Context.Follows ⟨catalog, naming, overrides⟩ entry where
  field group hgroup decl hdecl type := by
    rw [Context.resolveField, get?_fields_of_mem h hgroup hdecl]
  otherField owner field hfield type := by
    have hnone := mt (isSome_fields_iff h).mp hfield
    rw [Option.not_isSome_iff_eq_none] at hnone
    rw [Context.resolveField, hnone]
  type decl hdecl type htype := by
    rw [Context.resolve, htype, Context.resolveHead, get?_types_of_mem h hdecl]
  otherType type htype := by
    have hnone := mt (isSome_types_iff h).mp htype
    rw [Option.not_isSome_iff_eq_none] at hnone
    rw [Context.resolve, Context.resolveHead, hnone]
    dsimp only
    rw [Context.needsDerived, Bool.and_comm (!type.head.isBuiltin)]

end Overrides

/-! ## §3 Groups of fields -/

namespace Entry

/-- Adds serializers for fields, one call after another. -/
def overrideFields (entry : Entry) (calls : List (TypeName × FieldOverride)) : Entry :=
  calls.foldl (fun entry (owner, decl) => entry.overrideField owner decl.field decl.serializer)
    entry

/-- A call adds to a group in the midst of the others, or behind them. -/
theorem fieldDecls_overrideField (entry : Entry) (owner : TypeName) (decl : FieldOverride) :
    (Overrides.fieldDecls (entry.overrideField owner decl.field decl.serializer)).Perm
      (Overrides.fieldDecls entry ++ [(owner, decl)]) := by
  unfold Overrides.fieldDecls overrideField
  dsimp only
  induction entry.fieldOverrides with
  | nil => rfl
  | cons group rest ih =>
    rw [addFieldOverride]
    split
    · next heq =>
      subst heq
      simp only [List.flatMap_cons, List.map_append, List.append_assoc]
      exact List.perm_append_comm.append_left _
    · rw [List.flatMap_cons, List.flatMap_cons, List.append_assoc]
      exact ih.append_left _

/-- Whichever groups the calls go to, the groups hold what was there and the
calls. -/
theorem fieldDecls_overrideFields (entry : Entry) (calls : List (TypeName × FieldOverride)) :
    (Overrides.fieldDecls (entry.overrideFields calls)).Perm
      (Overrides.fieldDecls entry ++ calls) := by
  induction calls generalizing entry with
  | nil => simp [overrideFields]
  | cons call rest ih =>
    obtain ⟨owner, decl⟩ := call
    refine (ih (entry.overrideField owner decl.field decl.serializer)).trans ?_
    refine ((fieldDecls_overrideField entry owner decl).append_right rest).trans ?_
    rw [List.append_assoc, List.singleton_append]

theorem overriddenTypes_overrideFields (entry : Entry) (calls : List (TypeName × FieldOverride)) :
    (entry.overrideFields calls).overriddenTypes = entry.overriddenTypes := by
  induction calls generalizing entry with
  | nil => rfl
  | cons call rest ih => exact ih _

/-- Calls name a field twice, or again one that has a serializer, exactly if the
entry that they make does. -/
theorem nodup_overriddenFields_overrideFields {entry : Entry}
    {calls : List (TypeName × FieldOverride)} :
    (entry.overrideFields calls).overriddenFields.Nodup ↔
      (entry.overriddenFields ++ calls.map fun call => (call.1, call.2.field)).Nodup := by
  have hfields : entry.overriddenFields ++ calls.map (fun call => (call.1, call.2.field)) =
      (Overrides.fieldDecls entry ++ calls).map fun call => (call.1, call.2.field) :=
    List.map_append.symm
  rw [hfields]
  exact ((fieldDecls_overrideFields entry calls).map _).nodup_iff

end Entry

/-! ## §4 Rejected entries -/

namespace Generator

theorem exists_rejected_iff (generator : Generator) (catalog : Catalog) (entry : Entry) :
    (∃ diagnostics, generator.triage catalog entry = .rejected diagnostics) ↔
      ¬entry.OverridesOnce := by
  rw [← Overrides.isOk_ofEntry_iff]
  rcases triage_cases generator catalog entry with
    ⟨duplicates, herror, hrejected⟩ | ⟨overrides, hok, ⟨-, hready⟩ | ⟨-, hdeferred⟩⟩
  · simp [herror, hrejected]
  · simp [hok, hready]
  · simp [hok, hdeferred]

/-- A pass reports every repetition of a type, and then every one of a field. -/
theorem rejections_eq (generator : Generator) (catalog : Catalog) (entry : Entry) :
    generator.rejections catalog entry =
      (repetitions entry.overriddenTypes).map
          (fun type => ⟨entry.name, .duplicateClassOverride type⟩) ++
        (repetitions entry.overriddenFields).map
          fun (owner, field) => ⟨entry.name, .duplicateFieldOverride owner field⟩ := by
  unfold rejections
  rcases triage_cases generator catalog entry with
    ⟨duplicates, herror, hrejected⟩ | ⟨overrides, hok, htriage⟩
  · rw [hrejected, Triage.diagnostics, Overrides.duplicates_ofEntry herror, List.map_append,
      List.map_map, List.map_map]
    rfl
  · obtain ⟨htypes, hfields⟩ := Overrides.isOk_ofEntry_iff.mp ⟨overrides, hok⟩
    rw [repetitions_eq_nil_iff.mpr htypes, repetitions_eq_nil_iff.mpr hfields]
    rcases htriage with ⟨-, hready⟩ | ⟨-, hdeferred⟩
    · rw [hready]
      rfl
    · rw [hdeferred]
      rfl

/-- **A context resolves as its entry declares.** An entry is rejected exactly if
it names two serializers for a type or for a field, and then every repetition is
reported once as an error, types before fields, each in the order of the entry.
The calls of a builder make an entry of as many repetitions as the calls have.
With any other entry the context follows it. -/
theorem resolved_as_declared (generator : Generator) (catalog : Catalog) (entry : Entry) :
    ((∃ diagnostics, generator.triage catalog entry = .rejected diagnostics) ↔
      ¬entry.overriddenTypes.Nodup ∨ ¬entry.overriddenFields.Nodup) ∧
    generator.rejections catalog entry =
      (repetitions entry.overriddenTypes).map
          (fun type => ⟨entry.name, .duplicateClassOverride type⟩) ++
        (repetitions entry.overriddenFields).map
          (fun (owner, field) => ⟨entry.name, .duplicateFieldOverride owner field⟩) ∧
    (∀ d ∈ generator.rejections catalog entry, d.finding.severity = .error) ∧
    (∀ calls : List (TypeName × FieldOverride),
      (∃ diagnostics,
          generator.triage catalog (entry.overrideFields calls) = .rejected diagnostics) ↔
        ¬entry.overriddenTypes.Nodup ∨
          ¬(entry.overriddenFields ++ calls.map fun call => (call.1, call.2.field)).Nodup) ∧
    (entry.OverridesOnce → ∃ ctx : Context,
      Overrides.ofEntry entry = .ok ctx.overrides ∧ ctx.catalog = catalog ∧
        ctx.naming = .ofOptions generator.options ∧ ctx.Follows entry ∧
        ∀ ready, generator.triage catalog entry = .ready ready → ready.context = ctx) := by
  refine ⟨?_, rejections_eq generator catalog entry, fun d hd => ?_, fun calls => ?_,
    fun honce => ?_⟩
  · rw [exists_rejected_iff, Entry.OverridesOnce, Decidable.not_and_iff_not_or_not]
  · obtain ⟨duplicate, rfl⟩ := exists_duplicate_of_mem_rejections hd
    cases duplicate <;> rfl
  · rw [exists_rejected_iff, Entry.OverridesOnce, Decidable.not_and_iff_not_or_not,
      Entry.overriddenTypes_overrideFields, Entry.nodup_overriddenFields_overrideFields]
  · obtain ⟨overrides, hok⟩ := Overrides.isOk_ofEntry_iff.mpr honce
    refine ⟨⟨catalog, .ofOptions generator.options, overrides⟩, hok, rfl, rfl,
      Overrides.follows_of_ofEntry hok catalog _, fun ready hready => ?_⟩
    rcases triage_cases generator catalog entry with
      ⟨duplicates, herror, -⟩ | ⟨found, hfound, ⟨-, htriage⟩ | ⟨-, htriage⟩⟩
    · rw [herror] at hok
      cases hok
    · rw [htriage] at hready
      cases hready
      rw [Except.ok.inj (hfound.symm.trans hok)]
    · rw [htriage] at hready
      cases hready

/-- A team has members, a lead and a size. -/
def squadCatalog : Catalog := .ofList
  [⟨⟨"crate::Squad"⟩, false,
      [⟨"lead", .node ⟨"crate::Member"⟩ [] false, .exported⟩,
       ⟨"members", .node ⟨"Vec"⟩ [.node ⟨"crate::Member"⟩ [] false] false, .exported⟩,
       ⟨"size", .node ⟨"u32"⟩ [] false, .exported⟩]⟩,
   ⟨⟨"crate::Member"⟩, false, [⟨"name", .node ⟨"String"⟩ [] false, .exported⟩]⟩]

/-- The overrides of a squad's fields stand in two groups, around one of another
type. -/
def squadEntry : Entry :=
  { Entry.named "Squads" with
    targets := [⟨"crate::Squad"⟩]
    classOverrides := [⟨⟨"u32"⟩, ⟨"crate::Padded"⟩⟩]
    fieldOverrides :=
      [⟨⟨"crate::Squad"⟩, [⟨"lead", ⟨"crate::ById"⟩⟩]⟩,
       ⟨⟨"crate::Member"⟩, [⟨"name", ⟨"crate::Upper"⟩⟩]⟩,
       ⟨⟨"crate::Squad"⟩, [⟨"members", ⟨"crate::Roster"⟩⟩]⟩] }

/-- Both groups apply, and a member elsewhere has its derived serializer. -/
theorem resolved_as_declared_squad :
    squadEntry.OverridesOnce ∧ ∃ ctx : Context,
      Overrides.ofEntry squadEntry = .ok ctx.overrides ∧
      ctx.resolveField ⟨"crate::Squad"⟩ "members"
          (.node ⟨"Vec"⟩ [.node ⟨"crate::Member"⟩ [] false] false) =
        some (.explicit ⟨"crate::Roster"⟩) ∧
      ctx.resolveField ⟨"crate::Squad"⟩ "size" (.node ⟨"u32"⟩ [] false) =
        some (.explicit ⟨"crate::Padded"⟩) ∧
      ctx.resolve (.node ⟨"crate::Member"⟩ [] false) =
        some (.derived ⟨"crate::MemberSerializer"⟩) := by
  have honce : squadEntry.OverridesOnce := by decide
  obtain ⟨-, -, -, -, hresolved⟩ :=
    resolved_as_declared (ofOptions .standard) squadCatalog squadEntry
  obtain ⟨ctx, hoverrides, hcatalog, hnaming, hfollows, -⟩ := hresolved honce
  refine ⟨honce, ctx, hoverrides, ?_, ?_, ?_⟩
  · exact hfollows.field ⟨⟨"crate::Squad"⟩, [⟨"members", ⟨"crate::Roster"⟩⟩]⟩ (by decide)
      ⟨"members", ⟨"crate::Roster"⟩⟩ (by decide) _
  · rw [hfollows.otherField _ _ (by decide)]
    exact hfollows.type ⟨⟨"u32"⟩, ⟨"crate::Padded"⟩⟩ (by decide) _ rfl
  · rw [hfollows.otherType _ (by decide), hcatalog, hnaming]
    rfl

/-- A third override is reported as the second is, and types come first. -/
example :
    (ofOptions .standard).rejections squadCatalog
        ((((squadEntry.overrideField ⟨"crate::Squad"⟩ "lead" ⟨"crate::ByName"⟩).overrideClass
          ⟨"u32"⟩ ⟨"crate::Hex"⟩).overrideClass ⟨"i8"⟩ ⟨"crate::Hex"⟩).overrideClass ⟨"u32"⟩
          ⟨"crate::Octal"⟩) =
      [⟨"Squads", .duplicateClassOverride ⟨"u32"⟩⟩, ⟨"Squads", .duplicateClassOverride ⟨"u32"⟩⟩,
       ⟨"Squads", .duplicateFieldOverride ⟨"crate::Squad"⟩ "lead"⟩] := rfl

end Generator

end Surrogates
