/-
Surrogates.Proofs.Unit.Synthesis — what a synthesized unit is made of.

A target has a unit exactly if one of its fields is eligible
(`isSome_synthesize?`), and then `parts_of_synthesize?` tells the parts of the
unit: it is of that target, its serializer is the one derived for the target,
and its fields are the eligible ones in order (`synthesize?_eq_some`). Its
imports are the serializers attached to fields, and then those of the file's
scope (`imports_eq`); among them are all serializers that the plans of fields
use (`mem_imports_of_mem_serializers`).
`contents_of_eligible` tells all of this by what the fields declare.
-/
import Surrogates.Proofs.Distinct
import Surrogates.Proofs.Plan.Serializers
import Surrogates.Unit.Synthesis

namespace Surrogates

/-! ## §1 Synthesis -/

namespace Context

variable {ctx : Context} {target : TypeName} {fields : List FieldDecl} {unit : SurrogateUnit}

theorem isSome_synthesize? (ctx : Context) (target : TypeName) (fields : List FieldDecl) :
    (ctx.synthesize? target fields).isSome = !(fields.filter (·.visibility.isEligible)).isEmpty := by
  unfold synthesize?
  dsimp only
  split
  · next h => rw [h]; rfl
  · next h => rw [Bool.not_eq_true] at h; rw [h]; rfl

/-- The parts of a unit, each from those before it. -/
theorem parts_of_synthesize? (h : ctx.synthesize? target fields = some unit) :
    unit.target = target ∧
      unit.surrogate =
        { name := ctx.naming.surrogate target
          fields := (fields.filter (·.visibility.isEligible)).map (ctx.surrogateField target)
          fileScope := (ctx.neededBy (fields.filter (·.visibility.isEligible))).filter
            (!(attachedTo unit.surrogate.fields).contains ·) } ∧
      unit.serializer =
        { name := (ctx.naming.serializer target).name
          toSurrogate :=
            ⟨target, ctx.naming.surrogate target, unit.surrogate.fields.map (·.name)⟩
          fromSurrogate :=
            ⟨ctx.naming.surrogate target, target, unit.surrogate.fields.map (·.name)⟩
          omitted := (fields.filter (!·.visibility.isEligible)).map (·.name)
          imports := attachedTo unit.surrogate.fields ++ unit.surrogate.fileScope } := by
  unfold synthesize? at h
  dsimp only at h
  split at h
  · cases h
  · cases h
    exact ⟨rfl, rfl, rfl⟩

theorem synthesize?_eq_some (h : ctx.synthesize? target fields = some unit) :
    unit.target = target ∧ unit.serializer.name = (ctx.naming.serializer target).name ∧
      unit.surrogate.fields =
        (fields.filter (·.visibility.isEligible)).map (ctx.surrogateField target) := by
  obtain ⟨htarget, hsurrogate, hserializer⟩ := parts_of_synthesize? h
  exact ⟨htarget, congrArg (·.name) hserializer, congrArg (·.fields) hsurrogate⟩

theorem surrogateName_eq (h : ctx.synthesize? target fields = some unit) :
    unit.surrogate.name = ctx.naming.surrogate target :=
  congrArg (·.name) (parts_of_synthesize? h).2.1

/-- A type of which a unit is made has eligible fields. -/
theorem eligible_ne_nil {catalog : Catalog} {decl : TypeDecl}
    (hdecl : catalog.find? target = some decl) (h : ctx.synthesize? target decl.fields = some unit) :
    catalog.eligible target ≠ [] := by
  have hsome := isSome_synthesize? ctx target decl.fields
  rw [h, Option.isSome_some] at hsome
  rw [Catalog.eligible, hdecl]
  exact fun hnone => by simp [show decl.fields.filter _ = [] from hnone] at hsome

/-- Each field of a surrogate is made from an eligible field. -/
theorem exists_decl_of_mem_fields (h : ctx.synthesize? target fields = some unit)
    {field : SurrogateField} (hfield : field ∈ unit.surrogate.fields) :
    ∃ decl ∈ fields.filter (·.visibility.isEligible), ctx.surrogateField target decl = field := by
  rw [(synthesize?_eq_some h).2.2] at hfield
  exact List.mem_map.mp hfield

/-- Both conversions copy the eligible fields, and the others are omitted. -/
theorem conversions_eq (h : ctx.synthesize? target fields = some unit) :
    unit.serializer.toSurrogate.fields =
        (fields.filter (·.visibility.isEligible)).map (·.name) ∧
      unit.serializer.fromSurrogate.fields =
        (fields.filter (·.visibility.isEligible)).map (·.name) ∧
      unit.serializer.omitted = (fields.filter (!·.visibility.isEligible)).map (·.name) := by
  have hnames : unit.surrogate.fields.map (·.name) =
      (fields.filter (·.visibility.isEligible)).map (·.name) := by
    rw [(synthesize?_eq_some h).2.2, List.map_map]
    rfl
  rw [(parts_of_synthesize? h).2.2]
  exact ⟨hnames, hnames, rfl⟩

/-! ## §2 Imports -/

/-- The serializers attached to the fields of a surrogate are those to which the
declared fields resolve. -/
theorem attachedTo_map_surrogateField (ctx : Context) (target : TypeName)
    (decls : List FieldDecl) :
    attachedTo (decls.map (ctx.surrogateField target)) =
      (decls.filterMap fun field =>
        ctx.resolveField target field.name field.type).eraseDups := by
  rw [attachedTo, List.filterMap_map]
  rfl

/-- What types need are the serializers of all their nodes. -/
theorem neededBy_eq (ctx : Context) (decls : List FieldDecl) :
    ctx.neededBy decls =
      (decls.flatMap fun field => field.type.nodes.filterMap ctx.resolve).eraseDups :=
  eraseDups_flatMap_eraseDups _ _

theorem fileScope_eq (h : ctx.synthesize? target fields = some unit) :
    unit.surrogate.fileScope =
      (ctx.neededBy (fields.filter (·.visibility.isEligible))).filter
        (!(attachedTo unit.surrogate.fields).contains ·) :=
  congrArg (·.fileScope) (parts_of_synthesize? h).2.1

theorem imports_eq (h : ctx.synthesize? target fields = some unit) :
    unit.serializer.imports = attachedTo unit.surrogate.fields ++ unit.surrogate.fileScope :=
  congrArg (·.imports) (parts_of_synthesize? h).2.2

theorem notMem_attachedTo_of_mem_fileScope (h : ctx.synthesize? target fields = some unit)
    {s : Serializer} (hs : s ∈ unit.surrogate.fileScope) :
    s ∉ attachedTo unit.surrogate.fields := by
  rw [fileScope_eq h, List.mem_filter] at hs
  simpa using hs.2

/-- The imports outside of the file's scope are those attached to fields. -/
theorem filter_imports_eq (h : ctx.synthesize? target fields = some unit) :
    unit.serializer.imports.filter (!unit.surrogate.fileScope.contains ·) =
      attachedTo unit.surrogate.fields := by
  have hattached : (attachedTo unit.surrogate.fields).filter
      (!unit.surrogate.fileScope.contains ·) = attachedTo unit.surrogate.fields := by
    refine List.filter_eq_self.mpr fun s hs => ?_
    have hnot : s ∉ unit.surrogate.fileScope :=
      fun hmem => notMem_attachedTo_of_mem_fileScope h hmem hs
    simpa using hnot
  have hscope : unit.surrogate.fileScope.filter (!unit.surrogate.fileScope.contains ·) = [] :=
    List.filter_eq_nil_iff.mpr fun s hs => by simpa using hs
  rw [imports_eq h, List.filter_append, hattached, hscope, List.append_nil]

/-- No serializer is imported twice. -/
theorem nodup_imports (h : ctx.synthesize? target fields = some unit) :
    unit.serializer.imports.Nodup := by
  rw [imports_eq h, List.nodup_append]
  refine ⟨nodup_eraseDups _, ?_, ?_⟩
  · rw [fileScope_eq h]
    exact (nodup_eraseDups _).filter _
  · rintro a ha _ hb rfl
    exact notMem_attachedTo_of_mem_fileScope h hb ha

theorem mem_neededBy {decls : List FieldDecl} {s : Serializer} :
    s ∈ ctx.neededBy decls ↔
      ∃ decl ∈ decls, ∃ node ∈ decl.type.nodes, ctx.resolve node = some s := by
  simp only [neededBy, collect, List.mem_eraseDups, List.mem_flatMap, List.mem_filterMap]

/-- What the plan of a field uses is imported. -/
theorem mem_imports_of_mem_serializers (h : ctx.synthesize? target fields = some unit)
    {field : SurrogateField} (hfield : field ∈ unit.surrogate.fields) {s : Serializer}
    (hs : s ∈ field.plan.serializers) : s ∈ unit.serializer.imports := by
  obtain ⟨decl, hdecl, rfl⟩ := exists_decl_of_mem_fields h hfield
  rw [imports_eq h, List.mem_append]
  by_cases hattached : s ∈ attachedTo unit.surrogate.fields
  · exact .inl hattached
  right
  rw [fileScope_eq h, List.mem_filter]
  refine ⟨mem_neededBy.mpr ⟨decl, hdecl, ?_⟩, by simpa using hattached⟩
  rcases mem_serializers_planField hs with hroot | ⟨node, hnode, hresolve⟩
  · exact absurd (List.mem_eraseDups.mpr (List.mem_filterMap.mpr ⟨_, hfield, hroot⟩)) hattached
  · exact ⟨node, decl.type.nodes_eq ▸ List.mem_cons_of_mem _ hnode, hresolve⟩

/-! ## §3 What a unit holds -/

/-- **What a unit holds.** A target with an eligible field has a unit. The eligible
fields are those of the surrogate and of both conversions, the others are
omitted, all in the order of their declarations. The imports are distinct: first
the serializers attached to fields, in order of first field, and then, in order
of first occurrence, those of other nodes in the types of eligible fields.
Nothing that the plan of a field uses is missing among them. -/
theorem contents_of_eligible (ctx : Context) (target : TypeName) (fields : List FieldDecl)
    (h : ∃ field ∈ fields, field.visibility.isEligible = true) :
    let eligible := fields.filter (·.visibility.isEligible)
    let attached := eligible.filterMap fun field =>
      ctx.resolveField target field.name field.type
    let needed := eligible.flatMap fun field => field.type.nodes.filterMap ctx.resolve
    ∃ unit, ctx.synthesize? target fields = some unit ∧
      (unit.surrogate.fields.map fun field => (field.name, field.type, field.attached)) =
        (eligible.map fun field =>
          (field.name, field.type, ctx.resolveField target field.name field.type)) ∧
      unit.serializer.toSurrogate.fields = eligible.map (·.name) ∧
      unit.serializer.fromSurrogate.fields = eligible.map (·.name) ∧
      unit.serializer.omitted = (fields.filter (!·.visibility.isEligible)).map (·.name) ∧
      unit.serializer.imports.Nodup ∧
      unit.serializer.imports = attached.eraseDups ++ unit.surrogate.fileScope ∧
      unit.surrogate.fileScope = (needed.filter (· ∉ attached)).eraseDups ∧
      ∀ field ∈ unit.surrogate.fields, ∀ s ∈ field.plan.serializers,
        s ∈ unit.serializer.imports := by
  intro eligible attached needed
  have hsome : (ctx.synthesize? target fields).isSome = true := by
    simpa [isSome_synthesize?] using h
  obtain ⟨unit, hunit⟩ := Option.isSome_iff_exists.mp hsome
  have hfields := (synthesize?_eq_some hunit).2.2
  have hattached : attachedTo unit.surrogate.fields = attached.eraseDups := by
    rw [hfields, attachedTo_map_surrogateField]
  obtain ⟨hcopied, hrestored, homitted⟩ := conversions_eq hunit
  refine ⟨unit, hunit, ?_, hcopied, hrestored, homitted, nodup_imports hunit, ?_, ?_,
    fun field hfield s hs => mem_imports_of_mem_serializers hunit hfield hs⟩
  · rw [hfields, List.map_map]
    rfl
  · rw [imports_eq hunit, hattached]
  · rw [fileScope_eq hunit, neededBy_eq, ← eraseDups_filter, hattached]
    congr 1
    exact List.filter_congr fun s _ => by simp

/-- The fields of a club: its board, its members and their teams, its seats, and
what it hides. -/
def clubFields : List FieldDecl :=
  [⟨"secret", .node ⟨"Vault"⟩ [] false, .hidden⟩,
   ⟨"teams", .node ⟨"HashMap"⟩
      [.node ⟨"String"⟩ [] false,
       .node ⟨"()"⟩ [.node ⟨"Team"⟩ [] true, .node ⟨"Member"⟩ [] false] false] false, .exported⟩,
   ⟨"head", .node ⟨"Member"⟩ [] true, .exported⟩,
   ⟨"seats", .node ⟨"Vec"⟩ [.node ⟨"u32"⟩ [] false] false, .internal⟩,
   ⟨"deputy", .node ⟨"Member"⟩ [] false, .exported⟩,
   ⟨"board", .node ⟨"Vec"⟩ [.node ⟨"Team"⟩ [] false] false, .restricted⟩]

/-- Integers have a serializer by an override, and so do the seats. -/
def clubContext : Context where
  catalog := .ofList [⟨⟨"Club"⟩, false, clubFields⟩, ⟨⟨"Team"⟩, false, []⟩, ⟨⟨"Member"⟩, false, []⟩]
  naming := .ofOptions .standard
  overrides :=
    { types := (∅ : Table TypeName Serializer).insert ⟨"u32"⟩ (.explicit ⟨"Padded"⟩)
      fields := (∅ : Table (TypeName × String) Serializer).insert (⟨"Club"⟩, "seats")
        (.explicit ⟨"Seats"⟩) }

/-- Members are attached to two fields, so that their serializer comes first,
though it occurs inside of an earlier one. -/
theorem contents_club :
    (∃ field ∈ clubFields, field.visibility.isEligible = true) ∧
      ∃ unit, clubContext.synthesize? ⟨"Club"⟩ clubFields = some unit ∧
        unit.serializer.toSurrogate.fields = ["teams", "head", "seats", "deputy"] ∧
        unit.serializer.omitted = ["secret", "board"] ∧
        unit.surrogate.fileScope = [.derived ⟨"TeamSerializer"⟩, .explicit ⟨"Padded"⟩] ∧
        unit.serializer.imports =
          [.derived ⟨"MemberSerializer"⟩, .explicit ⟨"Seats"⟩, .derived ⟨"TeamSerializer"⟩,
           .explicit ⟨"Padded"⟩] := by
  have heligible : ∃ field ∈ clubFields, field.visibility.isEligible = true := by decide
  obtain ⟨unit, hunit, -, hcopied, -, homitted, -, himports, hscope, -⟩ :=
    contents_of_eligible clubContext ⟨"Club"⟩ clubFields heligible
  refine ⟨heligible, unit, hunit, hcopied, homitted, hscope.trans (by decide), ?_⟩
  rw [himports, hscope]
  decide

end Context

/-! ## §4 Fields of distinct names -/

/-- A unit is synthesized from fields of distinct names. -/
def SurrogateUnit.Synthesized (unit : SurrogateUnit) : Prop :=
  ∃ (ctx : Context) (target : TypeName) (fields : List FieldDecl),
    (fields.map (·.name)).Nodup ∧ ctx.synthesize? target fields = some unit

/-- The surrogate's fields have distinct names too. -/
theorem SurrogateUnit.Synthesized.nodup {unit : SurrogateUnit} (h : unit.Synthesized) :
    (unit.surrogate.fields.map (·.name)).Nodup := by
  obtain ⟨ctx, target, fields, hnames, hunit⟩ := h
  rw [(Context.synthesize?_eq_some hunit).2.2, List.map_map]
  exact hnames.sublist (List.filter_sublist.map _)

end Surrogates
