/-
Surrogates.Proofs.Generation.DerivedSerializers — which types get derived
serializers.

A type that is built in or native serializes by itself, and no field of a unit
has the serializer derived for it: not attached, not in its plan, and not
among the imports or in the file's scope of the unit
(`not_holds_of_serializesItself`). Modules do not ask. They register the
derived serializer of each target with a unit, and a target has one if it has
eligible fields, whether or not it serializes by itself. So the serializers
derived for such types are in a generation exactly as far as entries list them
as targets: `holds_run_iff`.
-/
import Surrogates.Proofs.Generation.Modules
import Surrogates.Proofs.Generation.Provenance

namespace Surrogates

/-! ## §1 The serializers of a generation -/

/-- Whether the values of a type serialize without a derived serializer: it is
built in, or declared as native. -/
def Catalog.serializesItself (catalog : Catalog) (type : TypeName) : Bool :=
  type.isBuiltin || catalog.isNative type

/-- The places of serializers in a unit. -/
inductive SurrogateUnit.Holds (unit : SurrogateUnit) (s : Serializer) : Prop where
  | attached {field : SurrogateField} (own : field ∈ unit.surrogate.fields)
      (attached : field.attached = some s)
  | planned {field : SurrogateField} (own : field ∈ unit.surrogate.fields)
      (planned : s ∈ field.plan.serializers)
  | imported (imported : s ∈ unit.serializer.imports)
  | inScope (inScope : s ∈ unit.surrogate.fileScope)

/-- The places of serializers in a generation. -/
inductive Generation.Holds (generation : Generation) (s : Serializer) : Prop where
  | ofUnit {unit : SurrogateUnit} (made : unit ∈ generation.units) (holds : unit.Holds s)
  | ofModule {spec : SerializerModule} (made : spec ∈ generation.modules) {pair : Registration}
      (registered : pair ∈ spec.pairs) (serializer : pair.serializer = s)

/-! ## §2 Units -/

theorem Context.refers_of_holds {ctx : Context} {target : TypeName} {fields : List FieldDecl}
    {unit : SurrogateUnit} (hunit : ctx.synthesize? target fields = some unit) {s : Serializer}
    (h : unit.Holds s) : unit.Refers s := by
  cases h with
  | attached own hattached => exact .inl ⟨_, own, .inl hattached⟩
  | planned own hplanned => exact .inl ⟨_, own, .inr hplanned⟩
  | imported himported => exact .inr himported
  | inScope hscope =>
    right
    rw [Context.imports_eq hunit]
    exact List.mem_append_right _ hscope

namespace Generator

variable {generator : Generator} {catalog : Catalog} {entries : List Entry}

/-- No unit of a pass holds the serializer derived for a type that serializes by
itself. -/
theorem not_holds_of_serializesItself (pass : Nat) {unit : SurrogateUnit}
    (hunit : unit ∈ (generator.runPass catalog pass entries).1.units) {type : TypeName}
    (htype : catalog.serializesItself type = true) :
    ¬unit.Holds ((Naming.ofOptions generator.options).serializer type) := by
  intro hholds
  obtain ⟨entry, hemission⟩ := exists_emission hunit
  obtain ⟨ready, hready, -, -, -, decl, hdecl, hsynthesize⟩ := of_mem_emissions hemission
  obtain ⟨-, hcatalog, hnaming, hoverrides⟩ := mem_readyEntries hready
  have horigin := Context.origin_of_refers (Overrides.declaredBy_of_ofEntry hoverrides)
    (hcatalog ▸ hdecl) hsynthesize (Context.refers_of_holds hsynthesize hholds)
  rw [hcatalog, hnaming] at horigin
  generalize hs : (Naming.ofOptions generator.options).serializer type = s at horigin
  cases horigin with
  | ofClass => cases congrArg Serializer.kind hs
  | ofField => cases congrArg Serializer.kind hs
  | ofType composite declared adapted =>
    obtain rfl := Naming.serializer_inj.mp hs
    rw [Catalog.serializesItself, composite, adapted] at htype
    cases htype

/-! ## §3 Modules -/

/-- The module of an entry holds the registrations that are not excluded. -/
theorem exists_moduleWhere_iff {entry : Entry} {options : Options} {synthesized : List TypeName}
    {pair : Registration} :
    (∃ spec, entry.moduleWhere options synthesized = some spec ∧ pair ∈ spec.pairs) ↔
      pair ∈ entry.registrations options synthesized ∧ pair.target ∉ entry.excluded := by
  have hmem : pair ∈ (entry.registrations options synthesized).filter
      (!entry.excluded.contains ·.target) ↔
        pair ∈ entry.registrations options synthesized ∧ pair.target ∉ entry.excluded := by
    simp [List.mem_filter]
  rw [← hmem]
  unfold Entry.moduleWhere
  dsimp only
  generalize (entry.registrations options synthesized).filter
    (!entry.excluded.contains ·.target) = pairs
  cases pairs <;> simp

/-- The serializer derived for a type is registered for that type alone, as for
a target that has a unit. -/
theorem mem_registrations_iff {entry : Entry} {options : Options} {synthesized : List TypeName}
    {type target : TypeName} :
    ⟨target, (Naming.ofOptions options).serializer type⟩ ∈
        entry.registrations options synthesized ↔
      target = type ∧ type ∈ entry.targets ∧ type ∈ synthesized := by
  rw [Entry.registrations, List.mem_append, or_iff_left]
  · constructor
    · intro h
      obtain ⟨listed, hlisted, heq⟩ := List.mem_map.mp h
      obtain rfl : listed = type := Naming.serializer_inj.mp (congrArg Registration.serializer heq)
      obtain ⟨htarget, hunit⟩ := List.mem_filter.mp hlisted
      exact ⟨(congrArg Registration.target heq).symm, List.mem_eraseDups.mp htarget,
        List.contains_iff_mem.mp hunit⟩
    · rintro ⟨rfl, htarget, hunit⟩
      refine List.mem_map.mpr ⟨target, List.mem_filter.mpr ⟨?_, ?_⟩, rfl⟩
      · exact List.mem_eraseDups.mpr htarget
      · exact List.contains_iff_mem.mpr hunit
  · intro h
    obtain ⟨decl, -, heq⟩ := List.mem_map.mp h
    cases congrArg (·.serializer.kind) heq

/-- Modules of a pass register the serializer derived for a type exactly if a
ready entry lists the type, does not exclude it, and it has a unit. -/
theorem exists_registered_iff (pass : Nat) {type : TypeName} :
    (∃ spec ∈ (generator.runPass catalog pass entries).1.modules, ∃ pair ∈ spec.pairs,
        pair.serializer = (Naming.ofOptions generator.options).serializer type) ↔
      ∃ entry ∈ entries, generator.isReady catalog entry = true ∧ type ∈ entry.targets ∧
        type ∉ entry.excluded ∧
        type ∈ (generator.runPass catalog pass entries).2.synthesized := by
  rw [modules_eq]
  constructor
  · rintro ⟨spec, hspec, ⟨target, _⟩, hpair, rfl⟩
    obtain ⟨entry, hentry, hmodule⟩ := List.mem_filterMap.mp hspec
    obtain ⟨hregistered, hkept⟩ := exists_moduleWhere_iff.mp ⟨spec, hmodule, hpair⟩
    obtain ⟨rfl, htarget, hunit⟩ := mem_registrations_iff.mp hregistered
    obtain ⟨hmem, hready⟩ := mem_map_entry_agenda.mp hentry
    exact ⟨entry, hmem, hready, htarget, hkept, hunit⟩
  · rintro ⟨entry, hmem, hready, htarget, hkept, hunit⟩
    obtain ⟨spec, hmodule, hpair⟩ := exists_moduleWhere_iff.mpr
      ⟨mem_registrations_iff.mpr ⟨rfl, htarget, hunit⟩, hkept⟩
    refine ⟨spec, List.mem_filterMap.mpr ⟨entry, ?_, hmodule⟩, _, hpair, rfl⟩
    exact mem_map_entry_agenda.mpr ⟨hmem, hready⟩

/-! ## §4 Runs -/

/-- A target of a ready entry has a unit after a pass exactly if it had one, or
has eligible fields. -/
theorem mem_synthesized_of_target (pass : Nat) {entry : Entry} (hentry : entry ∈ entries)
    (hready : generator.isReady catalog entry = true) {type : TypeName}
    (htarget : type ∈ entry.targets) :
    type ∈ (generator.runPass catalog pass entries).2.synthesized ↔
      generator.isSynthesized type = true ∨ catalog.eligible type ≠ [] := by
  have hlisted : ∃ r ∈ generator.readyEntries catalog entries, type ∈ r.entry.targets := by
    have hmem : entry ∈ (generator.readyEntries catalog entries).map (·.entry) := by
      rw [map_entry_readyEntries]
      exact List.mem_filter.mpr ⟨hentry, hready⟩
    obtain ⟨r, hr, rfl⟩ := List.mem_map.mp hmem
    exact ⟨r, hr, htarget⟩
  rw [← isSynthesized_iff, isSynthesized_runPass, mem_produced, and_iff_right hlisted]

/-- **Derived serializers of types that serialize by themselves.** No unit of a
run holds one. The run holds one in a module exactly if a ready entry lists the
type as a target that it does not exclude, and the type had a unit already or
has eligible fields. -/
theorem holds_run_iff (generator : Generator) (catalog : Catalog) (entries : List Entry)
    {type : TypeName} (htype : catalog.serializesItself type = true) :
    let s := (Naming.ofOptions generator.options).serializer type
    let generation := (generator.run catalog entries).1
    (∀ unit ∈ generation.units, ¬unit.Holds s) ∧
      (generation.Holds s ↔
        ∃ entry ∈ entries, generator.isReady catalog entry = true ∧ type ∈ entry.targets ∧
          type ∉ entry.excluded ∧
          (generator.isSynthesized type = true ∨ catalog.eligible type ≠ [])) := by
  intro s generation
  have hunits : ∀ unit ∈ generation.units, ¬unit.Holds s :=
    fun unit hunit => not_holds_of_serializesItself 1 hunit htype
  have hmodules : generation.Holds s ↔
      ∃ spec ∈ generation.modules, ∃ pair ∈ spec.pairs, pair.serializer = s := by
    constructor
    · intro h
      cases h with
      | ofUnit made holds => exact absurd holds (hunits _ made)
      | ofModule made registered serializer => exact ⟨_, made, _, registered, serializer⟩
    · rintro ⟨spec, hspec, pair, hpair, heq⟩
      exact .ofModule hspec hpair heq
  refine ⟨hunits, hmodules.trans ((exists_registered_iff 1).trans ?_)⟩
  refine exists_congr fun entry => and_congr_right fun hentry => and_congr_right fun hready =>
    and_congr_right fun htarget => and_congr_right fun _ => ?_
  exact mem_synthesized_of_target 1 hentry hready htarget

/-! ## §5 A department that serializes by itself -/

/-- Departments are native, and employees are in one. -/
def departmentCatalog : Catalog := .ofList
  [⟨⟨"crate::hr::Department"⟩, true, [⟨"floor", .node ⟨"u32"⟩ [] false, .exported⟩]⟩,
   ⟨⟨"crate::hr::Employee"⟩, false,
      [⟨"department", .node ⟨"crate::hr::Department"⟩ [] false, .exported⟩]⟩]

/-- The serializer that would be derived for departments. -/
def departmentSerializer : Serializer := .derived ⟨"crate::hr::DepartmentSerializer"⟩

/-- A configuration that lists departments. -/
def departmentConfiguration : Configuration :=
  ⟨.standard, [(Entry.named "Hr").target ⟨"crate::hr::Department"⟩]⟩

/-- A configuration that lists employees alone. -/
def employeeConfiguration : Configuration :=
  ⟨.standard, [(Entry.named "Hr").target ⟨"crate::hr::Employee"⟩]⟩

/-- Departments are native, and their derived serializer is registered as soon as
an entry lists them. -/
theorem holds_department :
    departmentConfiguration.check? = none ∧
      departmentCatalog.isNative ⟨"crate::hr::Department"⟩ = true ∧
      (Naming.ofOptions .standard).serializer ⟨"crate::hr::Department"⟩ = departmentSerializer ∧
      ((ofOptions .standard).run departmentCatalog departmentConfiguration.entries).1.modules =
        [⟨"HrModule", "Hr", [⟨⟨"crate::hr::Department"⟩, departmentSerializer⟩]⟩] ∧
      ((ofOptions .standard).run departmentCatalog departmentConfiguration.entries).1.Holds
        departmentSerializer := by
  refine ⟨by decide, by decide, rfl, rfl, ?_⟩
  exact .ofModule List.mem_cons_self List.mem_cons_self rfl

/-- Where employees alone are listed, nothing holds it. -/
theorem not_holds_employees :
    departmentCatalog.serializesItself ⟨"crate::hr::Department"⟩ = true ∧
      ¬((ofOptions .standard).run departmentCatalog employeeConfiguration.entries).1.Holds
        departmentSerializer := by
  have htype : departmentCatalog.serializesItself ⟨"crate::hr::Department"⟩ = true := by decide
  obtain ⟨-, hholds⟩ := holds_run_iff (ofOptions .standard) departmentCatalog
    employeeConfiguration.entries htype
  refine ⟨htype, fun h => ?_⟩
  obtain ⟨entry, hentry, -, htarget, -⟩ := hholds.mp h
  rw [List.mem_singleton.mp hentry] at htarget
  exact absurd htarget (by decide)

end Generator

end Surrogates
