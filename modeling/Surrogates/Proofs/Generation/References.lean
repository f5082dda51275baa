/-
Surrogates.Proofs.Generation.References — what the units and modules of passes
refer to.

A pass whose report warns of no missing surrogate accounts for all it refers
to: each serializer is derived for a target that has a unit when the pass
ends, or an override of an entry names it (`accounts_unit`,
`accounts_module`). No later pass takes a unit away, so in the end this holds
of all passes together: `accounts_references`.
-/
import Surrogates.Proofs.Generation.MissingSurrogates
import Surrogates.Proofs.Generation.Passes

namespace Surrogates

/-- No diagnostic of a report is about a missing surrogate. -/
def PassReport.NoneMissing (report : PassReport) : Prop :=
  ∀ name owner field type,
    (⟨name, .missingSurrogate owner field type⟩ : Diagnostic) ∉ report.diagnostics

/-- The serializers that a unit's fields use, attached or in their plans. -/
def SurrogateUnit.references (unit : SurrogateUnit) : List Serializer :=
  unit.surrogate.fields.flatMap fun field => field.attached.toList ++ field.plan.serializers

/-- The serializers that the units of a report use, and those that its modules
register. -/
def PassReport.references (report : PassReport) : List Serializer :=
  report.units.flatMap (·.references) ++
    report.modules.flatMap fun spec => spec.pairs.map (·.serializer)

/-- The serializers that the units of a generation use, and those that its
modules register. -/
def Generation.references (generation : Generation) : List Serializer :=
  generation.units.flatMap (·.references) ++
    generation.modules.flatMap fun spec => spec.pairs.map (·.serializer)

theorem SurrogateUnit.mem_references {unit : SurrogateUnit} {s : Serializer} :
    s ∈ unit.references ↔ ∃ field ∈ unit.surrogate.fields,
      field.attached = some s ∨ s ∈ field.plan.serializers := by
  simp [references]

/-- A generation refers to what one of its reports refers to. -/
theorem Generation.mem_references_ofReports {reports : List PassReport} {s : Serializer}
    (h : s ∈ (ofReports reports).references) : ∃ report ∈ reports, s ∈ report.references := by
  rcases List.mem_append.mp h with hunits | hmodules
  · obtain ⟨unit, hunit, hs⟩ := List.mem_flatMap.mp hunits
    obtain ⟨report, hreport, hmem⟩ := mem_units_ofReports.mp hunit
    exact ⟨report, hreport, List.mem_append_left _ (List.mem_flatMap.mpr ⟨unit, hmem, hs⟩)⟩
  · obtain ⟨spec, hspec, hs⟩ := List.mem_flatMap.mp hmodules
    obtain ⟨report, hreport, hmem⟩ := mem_modules_ofReports.mp hspec
    exact ⟨report, hreport, List.mem_append_right _ (List.mem_flatMap.mpr ⟨spec, hmem, hs⟩)⟩

namespace Generator

/-- A serializer is derived for a target with a unit, or an override of an
entry names it. -/
def Accounts (generator : Generator) (entries : List Entry) (s : Serializer) : Prop :=
  (∃ type ∈ generator.synthesized, s = (Naming.ofOptions generator.options).serializer type) ∨
    ∃ entry ∈ entries, ∃ name ∈ entry.overrideNames, s = .explicit name

theorem Accounts.mono {generator later : Generator} {entries more : List Entry} {s : Serializer}
    (h : generator.Accounts entries s) (hoptions : later.options = generator.options)
    (hsynthesized : generator.synthesized ⊆ later.synthesized) (hentries : entries ⊆ more) :
    later.Accounts more s := by
  rcases h with ⟨type, htype, heq⟩ | ⟨entry, hentry, hname⟩
  · exact .inl ⟨type, hsynthesized htype, by rw [heq, hoptions]⟩
  · exact .inr ⟨entry, hentries hentry, hname⟩

variable {generator : Generator} {catalog : Catalog} {entries : List Entry} {pass : Nat}

/-! ## §1 Units -/

/-- The derived serializers of occurrences have units where no warning is
given. -/
theorem accounts_occurrence
    (hnone : (generator.runPass catalog pass entries).1.NoneMissing) {ready : Ready}
    (hready : ready ∈ generator.readyEntries catalog entries) {o : Occurrence}
    (ho : o ∈ ready.context.occurrences generator.synthesized ready.entry.targets)
    {s : Serializer} (hs : o.serializer = some s) :
    (generator.runPass catalog pass entries).2.Accounts entries s := by
  obtain ⟨hentry, -, hnaming, hoverrides⟩ := mem_readyEntries hready
  obtain ⟨target, -, -, field, -, hfield⟩ := Context.mem_occurrences.mp ho
  rcases Context.serializer_cases (Overrides.declaredBy_of_ofEntry hoverrides) hfield hs with
    rfl | ⟨name, hname, rfl⟩
  · refine .inl ⟨o.head, ?_, by rw [hnaming]; rfl⟩
    rcases isSynthesized_or_missingSurrogate hready ho hs rfl with hunit | hmissing
    · exact isSynthesized_iff.mp hunit
    · exact absurd hmissing (hnone _ _ _ _)
  · exact .inr ⟨ready.entry, hentry, name, hname, rfl⟩

/-- What a unit uses is accounted for. -/
theorem accounts_unit (hnone : (generator.runPass catalog pass entries).1.NoneMissing)
    {unit : SurrogateUnit} (hunit : unit ∈ (generator.runPass catalog pass entries).1.units)
    {s : Serializer} (hs : s ∈ unit.references) :
    (generator.runPass catalog pass entries).2.Accounts entries s := by
  obtain ⟨entry, hemission⟩ := exists_emission hunit
  obtain ⟨field, hfield, huse⟩ := SurrogateUnit.mem_references.mp hs
  obtain ⟨ready, hready, rfl, o, ho, -, -, hserializer⟩ :=
    exists_occurrence_of_emission hemission hfield huse
  exact accounts_occurrence hnone hready ho hserializer

/-! ## §2 Modules -/

/-- A module registers targets with units and overridden types. -/
theorem mem_pairs_process {options : Options} {synthesized : List TypeName} {ready : Ready}
    {spec : SerializerModule} (h : (process options synthesized ready).module? = some spec)
    {pair : Registration} (hpair : pair ∈ spec.pairs) :
    (∃ target ∈ ready.entry.targets,
        (outcome synthesized ready.context target).isRegistered = true ∧
        pair.serializer = ready.context.naming.serializer target) ∨
      ready.context.overrides.types.get? pair.target = some pair.serializer := by
  have hmem := SerializerModule.mem_of_mem_pairs h hpair
  rcases List.mem_append.mp hmem with hregistered | hoverridden
  · obtain ⟨⟨target, _⟩, hfiltered, rfl⟩ := List.mem_map.mp hregistered
    obtain ⟨houtcome, hisRegistered⟩ := List.mem_filter.mp hfiltered
    obtain ⟨_, htarget, heq⟩ := List.mem_map.mp houtcome
    cases heq
    exact .inl ⟨target, List.mem_eraseDups.mp htarget, hisRegistered, rfl⟩
  · obtain ⟨⟨type, s⟩, hentry, rfl⟩ := List.mem_map.mp hoverridden
    exact .inr (Assoc.get?_eq_some_of_mem ready.context.overrides.types.nodup hentry)

/-- What a module registers is accounted for. -/
theorem accounts_module {spec : SerializerModule}
    (hspec : spec ∈ (generator.runPass catalog pass entries).1.modules) {pair : Registration}
    (hpair : pair ∈ spec.pairs) :
    (generator.runPass catalog pass entries).2.Accounts entries pair.serializer := by
  obtain ⟨processed, hmem, hmodule⟩ := List.mem_filterMap.mp hspec
  have hprocessed : processed ∈ (processAll generator.options generator.synthesized
      (generator.agenda catalog entries)).2 := hmem
  obtain ⟨ready, earlier, later, hagenda, rfl⟩ := exists_split_of_mem hprocessed
  have hready : ready ∈ generator.readyEntries catalog entries :=
    mem_agenda.mp (hagenda ▸ List.mem_append_right earlier List.mem_cons_self)
  obtain ⟨hentry, -, hnaming, hoverrides⟩ := mem_readyEntries hready
  rcases mem_pairs_process hmodule hpair with ⟨target, htarget, hregistered, heq⟩ | hget
  · refine .inl ⟨target, ?_, by rw [heq, hnaming]; rfl⟩
    have hmem := mem_processAll_of_isRegistered later htarget hregistered
    rw [← hagenda] at hmem
    exact hmem
  · obtain ⟨name, hname, heq⟩ :=
      (Overrides.declaredBy_of_ofEntry hoverrides).mem_overrideNames_of_types hget
    exact .inr ⟨ready.entry, hentry, name, hname, heq⟩

/-! ## §3 Reports and generations -/

/-- What a report refers to is accounted for, if it warns of no missing
surrogate. -/
theorem accounts_report (hnone : (generator.runPass catalog pass entries).1.NoneMissing)
    {s : Serializer} (hs : s ∈ (generator.runPass catalog pass entries).1.references) :
    (generator.runPass catalog pass entries).2.Accounts entries s := by
  rcases List.mem_append.mp hs with hunits | hmodules
  · obtain ⟨unit, hunit, hreference⟩ := List.mem_flatMap.mp hunits
    exact accounts_unit hnone hunit hreference
  · obtain ⟨spec, hspec, hpairs⟩ := List.mem_flatMap.mp hmodules
    obtain ⟨pair, hpair, rfl⟩ := List.mem_map.mp hpairs
    exact accounts_module hspec hpair

/-- In the end all that units and modules refer to is accounted for, if no
report warns of a missing surrogate. -/
theorem accounts_references {requests : List PassRequest}
    (hnone : ∀ report ∈ (generator.runPasses requests).1, report.NoneMissing) {s : Serializer}
    (hs : s ∈ (Generation.ofReports (generator.runPasses requests).1).references) :
    (generator.runPasses requests).2.Accounts (requests.flatMap (·.entries)) s := by
  obtain ⟨report, hreport, hreference⟩ := Generation.mem_references_ofReports hs
  -- the report is that of a pass in a state on the way, with units still there in the end
  obtain ⟨before, hbefore, request, hrequest, rfl, hsubset⟩ := exists_pass_of_mem hreport
  have hpass := accounts_report (hnone _ hreport) hreference
  have hoptions := options_runPasses generator requests
  refine hpass.mono (hoptions.trans hbefore.symm) hsubset ?_
  exact fun entry hentry => List.mem_flatMap.mpr ⟨request, hrequest, hentry⟩

end Generator

end Surrogates
