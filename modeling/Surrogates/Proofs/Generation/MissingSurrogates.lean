/-
Surrogates.Proofs.Generation.MissingSurrogates — the derived serializers that
no entry provides.

A pass warns before it makes units, and the plans of the units are built
later, each in the context of its entry. Both look at the same nodes: a
serializer that a field of a unit uses is that of an occurrence
(`exists_occurrence`), and the warnings are those about occurrences
(`missingSurrogate_mem_diagnostics_iff`). So each derived serializer that is
used has a unit in the end or is warned of, and what is warned of has none:
`provided_or_reported`.
-/
import Surrogates.Proofs.Generation.Pass
import Surrogates.Proofs.Plan.Serializers
import Surrogates.Proofs.Resolution.Context

namespace Surrogates

/-! ## §1 Occurrences -/

namespace Context

variable {ctx : Context}

theorem mem_occurrences {synthesized targets : List TypeName} {o : Occurrence} :
    o ∈ ctx.occurrences synthesized targets ↔
      ∃ target ∈ targets, target ∉ synthesized ∧
        ∃ field ∈ ctx.catalog.eligible target, o ∈ ctx.occurrencesInField target field := by
  simp [occurrences, List.mem_flatMap, List.mem_filter, and_assoc]

theorem owner_of_mem_occurrencesInField {owner : TypeName} {field : FieldDecl} {o : Occurrence}
    (h : o ∈ ctx.occurrencesInField owner field) : o.owner = owner ∧ o.field = field.name := by
  rcases List.mem_cons.mp h with rfl | h
  · exact ⟨rfl, rfl⟩
  · obtain ⟨node, -, rfl⟩ := List.mem_map.mp h
    exact ⟨rfl, rfl⟩

/-- An occurrence resolves to the serializer derived for its head, or to one
that the entry names. -/
theorem serializer_cases {entry : Entry} (hdeclared : ctx.overrides.DeclaredBy entry)
    {owner : TypeName} {field : FieldDecl} {o : Occurrence} {s : Serializer}
    (h : o ∈ ctx.occurrencesInField owner field) (hs : o.serializer = some s) :
    s = ctx.naming.serializer o.head ∨ ∃ name ∈ entry.overrideNames, s = .explicit name := by
  rcases List.mem_cons.mp h with rfl | h
  · exact resolveField_cases hdeclared hs
  · obtain ⟨node, -, rfl⟩ := List.mem_map.mp h
    exact resolve_cases hdeclared hs

/-- Every serializer that a field of a surrogate uses, attached or in its plan,
is that of an occurrence in the field. -/
theorem exists_occurrence {target : TypeName} {field : FieldDecl} {s : Serializer}
    (h : (ctx.surrogateField target field).attached = some s ∨
      s ∈ (ctx.surrogateField target field).plan.serializers) :
    ∃ o ∈ ctx.occurrencesInField target field, o.serializer = some s := by
  have hfield : ctx.resolveField target field.name field.type = some s ∨
      ∃ node ∈ TypeExpr.nodesOfArgs field.type.args, ctx.resolve node = some s := by
    rcases h with hattached | hplan
    · exact .inl hattached
    · exact mem_serializers_planField hplan
  rcases hfield with hroot | ⟨node, hnode, hinside⟩
  · exact ⟨_, List.mem_cons_self .., hroot⟩
  · exact ⟨_, List.mem_cons_of_mem _ (List.mem_map.mpr ⟨node, hnode, rfl⟩), hinside⟩

end Context

namespace Generator

variable {generator : Generator} {catalog : Catalog} {entries : List Entry} {pass : Nat}

/-! ## §2 Warnings -/

theorem mem_derivations {ready : Ready} {o : Occurrence} :
    o ∈ generator.derivations ready ↔
      o ∈ ready.context.occurrences generator.synthesized ready.entry.targets ∧
        (∃ s, o.serializer = some s ∧ s.isDerived = true) ∧ o.head ∉ generator.synthesized := by
  have hderived : (o.serializer.map (·.isDerived)).getD false = true ↔
      ∃ s, o.serializer = some s ∧ s.isDerived = true := by
    cases o.serializer <;> simp
  simp only [derivations, List.mem_filter, Bool.and_eq_true, hderived, Bool.not_eq_true',
    isSynthesized, List.contains_eq_mem, decide_eq_false_iff_not]

theorem mem_missing {produced : List TypeName} {ready : Ready} {d : Diagnostic} :
    d ∈ generator.missing produced ready ↔
      ∃ o ∈ ready.context.occurrences generator.synthesized ready.entry.targets,
        (∃ s, o.serializer = some s ∧ s.isDerived = true) ∧ o.head ∉ generator.synthesized ∧
          o.head ∉ produced ∧ d = ⟨ready.entry.name, .missingSurrogate o.owner o.field o.head⟩ := by
  simp only [missing, List.mem_map, List.mem_filter, mem_derivations, Bool.not_eq_true',
    List.contains_eq_mem, decide_eq_false_iff_not, and_assoc]
  constructor
  · rintro ⟨o, ho, hs, hunit, hproduced, heq⟩
    exact ⟨o, ho, hs, hunit, hproduced, heq.symm⟩
  · rintro ⟨o, ho, hs, hunit, hproduced, heq⟩
    exact ⟨o, ho, hs, hunit, hproduced, heq.symm⟩

/-- The warnings of a pass about missing surrogates are those of its ready
entries. -/
theorem missingSurrogate_mem_diagnostics_iff {name : String} {owner type : TypeName}
    {field : String} :
    (⟨name, .missingSurrogate owner field type⟩ : Diagnostic) ∈
        (generator.runPass catalog pass entries).1.diagnostics ↔
      ∃ ready ∈ generator.readyEntries catalog entries,
        (⟨name, .missingSurrogate owner field type⟩ : Diagnostic) ∈
          generator.missing (produced catalog (generator.readyEntries catalog entries)) ready := by
  rw [diagnostics_runPass]
  constructor
  · intro h
    rcases List.mem_append.mp h with h | hprocessed
    · rcases List.mem_append.mp h with hrejected | hmissing
      · obtain ⟨entry, -, hd⟩ := List.mem_flatMap.mp hrejected
        obtain ⟨duplicate, heq⟩ := exists_duplicate_of_mem_rejections hd
        cases duplicate <;> cases heq
      · exact List.mem_flatMap.mp hmissing
    · obtain ⟨processed, hmem, hd⟩ := List.mem_flatMap.mp hprocessed
      obtain ⟨ready, earlier, later, -, rfl⟩ := exists_split_of_mem hmem
      obtain ⟨target, -, heq | heq⟩ := mem_diagnostics_process hd <;> cases heq
  · intro h
    exact List.mem_append_left _ (List.mem_append_right _ (List.mem_flatMap.mpr h))

/-! ## §3 Uses -/

/-- What a unit uses was an occurrence in its entry when the pass looked for
warnings. -/
theorem exists_occurrence_of_emission {entry : Entry} {unit : SurrogateUnit}
    (hunit : (entry, unit) ∈ generator.emissions catalog entries) {field : SurrogateField}
    (hfield : field ∈ unit.surrogate.fields) {s : Serializer}
    (huse : field.attached = some s ∨ s ∈ field.plan.serializers) :
    ∃ ready ∈ generator.readyEntries catalog entries, ready.entry = entry ∧
      ∃ o ∈ ready.context.occurrences generator.synthesized entry.targets,
        o.owner = unit.target ∧ o.field = field.name ∧ o.serializer = some s := by
  obtain ⟨ready, hready, heq, htarget, hnew, decl, hdecl, hsynthesize⟩ := of_mem_emissions hunit
  obtain ⟨fieldDecl, hmem, rfl⟩ := Context.exists_decl_of_mem_fields hsynthesize hfield
  obtain ⟨o, ho, hserializer⟩ := Context.exists_occurrence huse
  obtain ⟨howner, hname⟩ := Context.owner_of_mem_occurrencesInField ho
  have heligible : fieldDecl ∈ ready.context.catalog.eligible unit.target := by
    rw [(mem_readyEntries hready).2.1, Catalog.eligible, hdecl]
    exact hmem
  exact ⟨ready, hready, heq, o,
    Context.mem_occurrences.mpr ⟨unit.target, htarget, hnew, fieldDecl, heligible, ho⟩,
    howner, hname, hserializer⟩

/-- A derived serializer of an occurrence is derived for its head. -/
theorem eq_serializer_of_occurrence {ready : Ready}
    (hready : ready ∈ generator.readyEntries catalog entries) {o : Occurrence}
    (ho : o ∈ ready.context.occurrences generator.synthesized ready.entry.targets)
    {s : Serializer} (hs : o.serializer = some s) (hderived : s.isDerived = true) :
    s = (Naming.ofOptions generator.options).serializer o.head := by
  obtain ⟨-, -, hnaming, hoverrides⟩ := mem_readyEntries hready
  obtain ⟨target, -, -, field, -, hfield⟩ := Context.mem_occurrences.mp ho
  rcases Context.serializer_cases (Overrides.declaredBy_of_ofEntry hoverrides) hfield hs with
    heq | ⟨name, -, rfl⟩
  · rw [heq, hnaming]
  · cases hderived

/-- The head of an occurrence with a derived serializer has a unit when the pass
ends, or the report warns of it. -/
theorem isSynthesized_or_missingSurrogate {ready : Ready}
    (hready : ready ∈ generator.readyEntries catalog entries) {o : Occurrence}
    (ho : o ∈ ready.context.occurrences generator.synthesized ready.entry.targets)
    {s : Serializer} (hs : o.serializer = some s) (hderived : s.isDerived = true) :
    (generator.runPass catalog pass entries).2.isSynthesized o.head = true ∨
      ⟨ready.entry.name, .missingSurrogate o.owner o.field o.head⟩ ∈
        (generator.runPass catalog pass entries).1.diagnostics := by
  by_cases hprovided :
      (generator.runPass catalog pass entries).2.isSynthesized o.head = true
  · exact .inl hprovided
  · right
    obtain ⟨hunit, hproduced⟩ := not_or.mp (mt isSynthesized_runPass.mpr hprovided)
    refine missingSurrogate_mem_diagnostics_iff.mpr ⟨ready, hready, mem_missing.mpr ?_⟩
    exact ⟨o, ho, ⟨s, hs, hderived⟩, mt isSynthesized_iff.mpr hunit, hproduced, rfl⟩

/-- A derived serializer that a unit of a pass uses is derived for one type.
That type has a unit when the pass ends, or the report warns of it under the
entry of the unit; and a type that a report warns of has none. -/
theorem provided_or_reported (generator : Generator) (catalog : Catalog) (pass : Nat)
    (entries : List Entry) :
    let report := (generator.runPass catalog pass entries).1
    let after := (generator.runPass catalog pass entries).2
    (generator.emissions catalog entries).map Prod.snd = report.units ∧
      (∀ entry unit, (entry, unit) ∈ generator.emissions catalog entries →
        ∀ field ∈ unit.surrogate.fields, ∀ s,
          (field.attached = some s ∨ s ∈ field.plan.serializers) → s.isDerived = true →
          ∃ type,
            (∀ other, (Naming.ofOptions generator.options).serializer other = s ↔ other = type) ∧
            (after.isSynthesized type = true ∨
              ⟨entry.name, .missingSurrogate unit.target field.name type⟩ ∈ report.diagnostics)) ∧
      ∀ name owner field type,
        ⟨name, .missingSurrogate owner field type⟩ ∈ report.diagnostics →
          after.isSynthesized type = false := by
  intro report after
  refine ⟨map_snd_emissions generator catalog pass entries, ?_, ?_⟩
  · intro entry unit hunit field hfield s huse hderived
    obtain ⟨ready, hready, rfl, o, ho, howner, hname, hs⟩ :=
      exists_occurrence_of_emission hunit hfield huse
    obtain rfl := eq_serializer_of_occurrence hready ho hs hderived
    refine ⟨o.head, fun other => Naming.serializer_inj, ?_⟩
    rw [← howner, ← hname]
    exact isSynthesized_or_missingSurrogate hready ho hs hderived
  · intro name owner field type hd
    obtain ⟨ready, -, hmissing⟩ := missingSurrogate_mem_diagnostics_iff.mp hd
    obtain ⟨o, -, -, hnew, hproduced, heq⟩ := mem_missing.mp hmissing
    cases heq
    refine Bool.eq_false_iff.mpr fun h => ?_
    rcases isSynthesized_runPass.mp h with hbefore | hnow
    · exact hnew (isSynthesized_iff.mp hbefore)
    · exact hproduced hnow

/-! ## §4 A team whose persons have no unit -/

/-- A team has a lead and members, who are persons. -/
def teamCatalog : Catalog := .ofList
  [⟨⟨"Team"⟩, false,
      [⟨"lead", .node ⟨"Person"⟩ [] false, .exported⟩,
       ⟨"members", .node ⟨"Vec"⟩ [.node ⟨"Person"⟩ [] false] false, .exported⟩]⟩,
   ⟨⟨"Person"⟩, false,
      [⟨"age", .node ⟨"i32"⟩ [] false, .exported⟩,
       ⟨"team", .node ⟨"Team"⟩ [] true, .exported⟩]⟩]

/-- An entry that lists teams but not persons. -/
def teamEntry : Entry := (Entry.named "Teams").target ⟨"Team"⟩

/-- The context of entries without overrides in that catalog. -/
def teamContext : Context := ⟨teamCatalog, .ofOptions .standard, .empty⟩

/-- The serializer derived for persons. -/
def personSerializer : Serializer := .derived ⟨"PersonSerializer"⟩

/-- The unit of teams. -/
def teamUnit : SurrogateUnit where
  target := ⟨"Team"⟩
  surrogate :=
    { name := ⟨"TeamSurrogate"⟩
      fields :=
        [⟨"lead", .node ⟨"Person"⟩ [] false, some personSerializer, .use personSerializer⟩,
         ⟨"members", .node ⟨"Vec"⟩ [.node ⟨"Person"⟩ [] false] false, none,
            .generic ⟨"Vec"⟩ [.use personSerializer]⟩]
      fileScope := [] }
  serializer :=
    { name := ⟨"TeamSerializer"⟩
      toSurrogate := ⟨⟨"Team"⟩, ⟨"TeamSurrogate"⟩, ["lead", "members"]⟩
      fromSurrogate := ⟨⟨"TeamSurrogate"⟩, ⟨"Team"⟩, ["lead", "members"]⟩
      omitted := []
      imports := [personSerializer] }

theorem emissions_team :
    (ofOptions .standard).emissions teamCatalog [teamEntry] = [(teamEntry, teamUnit)] := rfl

theorem missing_team :
    ⟨"Teams", .missingSurrogate ⟨"Team"⟩ "members" ⟨"Person"⟩⟩ ∈
      ((ofOptions .standard).runPass teamCatalog 1 [teamEntry]).1.diagnostics := by
  have hdiagnostics : ((ofOptions .standard).runPass teamCatalog 1 [teamEntry]).1.diagnostics =
      [⟨"Teams", .missingSurrogate ⟨"Team"⟩ "lead" ⟨"Person"⟩⟩,
       ⟨"Teams", .missingSurrogate ⟨"Team"⟩ "members" ⟨"Person"⟩⟩] := rfl
  rw [hdiagnostics]
  exact List.mem_cons_of_mem _ List.mem_cons_self

/-- The members of a team use the serializer of persons, which nothing
provides: the pass warns of it, and persons have no unit. -/
theorem reported_team :
    (∃ type,
      (∀ other, (Naming.ofOptions .standard).serializer other = personSerializer ↔ other = type) ∧
        (((ofOptions .standard).runPass teamCatalog 1 [teamEntry]).2.isSynthesized type = true ∨
          ⟨"Teams", .missingSurrogate ⟨"Team"⟩ "members" type⟩ ∈
            ((ofOptions .standard).runPass teamCatalog 1 [teamEntry]).1.diagnostics)) ∧
      ((ofOptions .standard).runPass teamCatalog 1 [teamEntry]).2.isSynthesized ⟨"Person"⟩ =
        false := by
  obtain ⟨-, huses, hreports⟩ :=
    provided_or_reported (ofOptions .standard) teamCatalog 1 [teamEntry]
  have hunit : (teamEntry, teamUnit) ∈ (ofOptions .standard).emissions teamCatalog [teamEntry] := by
    rw [emissions_team]
    exact List.mem_singleton_self _
  constructor
  · exact huses teamEntry teamUnit hunit _ (List.mem_cons_of_mem _ List.mem_cons_self)
      personSerializer (.inr List.mem_cons_self) rfl
  · exact hreports "Teams" ⟨"Team"⟩ "members" ⟨"Person"⟩ missing_team

end Generator

end Surrogates
