/-
Surrogates.Proofs.Generation.Pass — a pass by its ready entries.

A pass processes the entries that are ready, each once, in the order of the
`agenda` (`agenda_perm`). Afterwards a target has a unit if it had one before
or if it is among those that the ready entries produce:
`isSynthesized_runPass`. `emissions` tells of each unit the entry for which
it was made, and `diagnostics_runPass` what is reported in which order.
-/
import Surrogates.Proofs.Generation.Processing
import Surrogates.Proofs.Generation.Schedule

namespace Surrogates

/-- In one catalog and under one naming, an entry alone tells which ready entry
it is. -/
theorem Ready.eq_of_entry {r other : Ready} (hentry : r.entry = other.entry)
    (hcatalog : r.context.catalog = other.context.catalog)
    (hnaming : r.context.naming = other.context.naming)
    (hoverrides : Overrides.ofEntry r.entry = .ok r.context.overrides)
    (hoverrides' : Overrides.ofEntry other.entry = .ok other.context.overrides) : r = other := by
  obtain ⟨entry, catalog, naming, overrides⟩ := r
  obtain ⟨entry', catalog', naming', overrides'⟩ := other
  obtain rfl : entry = entry' := hentry
  obtain rfl : overrides = overrides' := Except.ok.inj (hoverrides.symm.trans hoverrides')
  obtain rfl : catalog = catalog' := hcatalog
  obtain rfl : naming = naming' := hnaming
  rfl

theorem Triage.ready?_eq_some_iff {triage : Triage} {ready : Ready} :
    triage.ready? = some ready ↔ triage = .ready ready := by
  cases triage <;> simp [ready?]

theorem Triage.deferral?_eq_some_iff {triage : Triage} {deferral : Deferral} :
    triage.deferral? = some deferral ↔ triage = .deferred deferral := by
  cases triage <;> simp [deferral?]

namespace Generator

variable {generator : Generator} {catalog : Catalog} {entries : List Entry} {pass : Nat}

/-! ## §1 Ready entries -/

/-- The entries that are ready in a pass. -/
def readyEntries (generator : Generator) (catalog : Catalog) (entries : List Entry) : List Ready :=
  (entries.map (generator.triage catalog)).filterMap (·.ready?)

/-- The ready entries of a pass in the order in which they are processed. -/
def agenda (generator : Generator) (catalog : Catalog) (entries : List Entry) : List Ready :=
  generator.scheduled (produced catalog (generator.readyEntries catalog entries))
    (generator.readyEntries catalog entries)

/-- Triage rejects an entry with two overrides of one thing. Any other entry is
ready if the types in its targets are known, and deferred if not. -/
theorem triage_cases (generator : Generator) (catalog : Catalog) (entry : Entry) :
    (∃ duplicates, Overrides.ofEntry entry = .error duplicates ∧
      generator.triage catalog entry =
        .rejected (duplicates.map fun duplicate => ⟨entry.name, duplicate.finding⟩)) ∨
    ∃ overrides, Overrides.ofEntry entry = .ok overrides ∧
      let ctx : Context := ⟨catalog, .ofOptions generator.options, overrides⟩
      let reasons := ctx.unknownTypes (ctx.occurrences generator.synthesized entry.targets)
      (reasons = [] ∧ generator.triage catalog entry = .ready ⟨entry, ctx⟩) ∨
        (reasons ≠ [] ∧ generator.triage catalog entry = .deferred ⟨entry.name, reasons⟩) := by
  unfold triage
  cases hoverrides : Overrides.ofEntry entry with
  | error duplicates => exact .inl ⟨duplicates, rfl, rfl⟩
  | ok overrides =>
    refine .inr ⟨overrides, rfl, ?_⟩
    dsimp only
    split
    · next hnone => exact .inl ⟨hnone, rfl⟩
    · next hsome => exact .inr ⟨hsome, rfl⟩

/-- An entry is ready if it has no second overrides and no type is unknown. -/
theorem triage_of_known {entry : Entry} {overrides : Overrides}
    (hoverrides : Overrides.ofEntry entry = .ok overrides)
    (hknown : (⟨catalog, .ofOptions generator.options, overrides⟩ : Context).unknownTypes
      ((⟨catalog, .ofOptions generator.options, overrides⟩ : Context).occurrences
        generator.synthesized entry.targets) = []) :
    generator.triage catalog entry =
      .ready ⟨entry, ⟨catalog, .ofOptions generator.options, overrides⟩⟩ := by
  unfold triage
  rw [hoverrides]
  dsimp only
  rw [hknown]

/-- What triage finds out of a ready entry. -/
theorem triage_eq_ready {entry : Entry} {ready : Ready}
    (h : generator.triage catalog entry = .ready ready) :
    ready.entry = entry ∧ ready.context.catalog = catalog ∧
      ready.context.naming = .ofOptions generator.options ∧
      Overrides.ofEntry entry = .ok ready.context.overrides := by
  rcases triage_cases generator catalog entry with
    ⟨duplicates, -, hrejected⟩ | ⟨overrides, hoverrides, ⟨-, hready⟩ | ⟨-, hdeferred⟩⟩
  · rw [hrejected] at h
    cases h
  · rw [hready] at h
    cases h
    exact ⟨rfl, rfl, rfl, hoverrides⟩
  · rw [hdeferred] at h
    cases h

theorem mem_readyEntries_iff {ready : Ready} :
    ready ∈ generator.readyEntries catalog entries ↔
      ∃ entry ∈ entries, generator.triage catalog entry = .ready ready := by
  simp [readyEntries, List.filterMap_map, List.mem_filterMap, Triage.ready?_eq_some_iff]

theorem mem_readyEntries {ready : Ready} (h : ready ∈ generator.readyEntries catalog entries) :
    ready.entry ∈ entries ∧ ready.context.catalog = catalog ∧
      ready.context.naming = .ofOptions generator.options ∧
      Overrides.ofEntry ready.entry = .ok ready.context.overrides := by
  obtain ⟨entry, hentry, htriage⟩ := mem_readyEntries_iff.mp h
  obtain ⟨heq, hcatalog, hnaming, hoverrides⟩ := triage_eq_ready htriage
  exact ⟨heq ▸ hentry, hcatalog, hnaming, heq ▸ hoverrides⟩

theorem filterMap_range_getElem? {α : Type u} (l : List α) :
    (List.range l.length).filterMap (l[·]?) = l := by
  induction l with
  | nil => rfl
  | cons a rest ih =>
    rw [List.length_cons, List.range_succ_eq_map]
    simpa [List.filterMap_map, Function.comp_def] using ih

/-- Each ready entry is processed once. -/
theorem agenda_perm (generator : Generator) (catalog : Catalog) (entries : List Entry) :
    (generator.agenda catalog entries).Perm (generator.readyEntries catalog entries) := by
  have hperm := (Schedule.order_perm (generator.readyEntries catalog entries).length
    (generator.providers (produced catalog (generator.readyEntries catalog entries))
      (generator.readyEntries catalog entries))).filterMap
        ((generator.readyEntries catalog entries)[·]?)
  rwa [filterMap_range_getElem?] at hperm

theorem mem_agenda {ready : Ready} :
    ready ∈ generator.agenda catalog entries ↔ ready ∈ generator.readyEntries catalog entries :=
  (agenda_perm generator catalog entries).mem_iff

/-- Passes that process the same make the same and end in the same state. -/
theorem runPass_congr_processAll (pass : Nat) {others : List Entry}
    (h : processAll generator.options generator.synthesized (generator.agenda catalog entries) =
      processAll generator.options generator.synthesized (generator.agenda catalog others)) :
    (generator.runPass catalog pass entries).1.units =
        (generator.runPass catalog pass others).1.units ∧
      (generator.runPass catalog pass entries).1.modules =
        (generator.runPass catalog pass others).1.modules ∧
      (generator.runPass catalog pass entries).2 = (generator.runPass catalog pass others).2 := by
  have hunits : ∀ asked, (generator.runPass catalog pass asked).1.units =
      (processAll generator.options generator.synthesized
        (generator.agenda catalog asked)).2.flatMap (·.units) := fun _ => rfl
  have hmodules : ∀ asked, (generator.runPass catalog pass asked).1.modules =
      (processAll generator.options generator.synthesized
        (generator.agenda catalog asked)).2.filterMap (·.module?) := fun _ => rfl
  have hafter : ∀ asked, (generator.runPass catalog pass asked).2 =
      { generator with synthesized := (processAll generator.options generator.synthesized
          (generator.agenda catalog asked)).1 } := fun _ => rfl
  simp only [hunits, hmodules, hafter, h, and_self]

/-! ## §2 Targets with units -/

theorem mem_produced {ready : List Ready} {target : TypeName} :
    target ∈ produced catalog ready ↔
      (∃ r ∈ ready, target ∈ r.entry.targets) ∧ catalog.eligible target ≠ [] := by
  simp [produced, List.mem_filter, List.mem_flatMap]

theorem isSynthesized_iff {target : TypeName} :
    generator.isSynthesized target = true ↔ target ∈ generator.synthesized := by
  simp [isSynthesized]

/-- A pass adds the targets of its units to those with units. -/
theorem synthesized_runPass (generator : Generator) (catalog : Catalog) (pass : Nat)
    (entries : List Entry) :
    (generator.runPass catalog pass entries).2.synthesized = generator.synthesized ++
      (generator.runPass catalog pass entries).1.units.map (·.target) :=
  synthesized_processAll generator.options generator.synthesized (generator.agenda catalog entries)

theorem nodup_runPass (h : generator.synthesized.Nodup) (catalog : Catalog) (pass : Nat)
    (entries : List Entry) :
    (generator.runPass catalog pass entries).2.synthesized.Nodup :=
  nodup_processAll h

/-- After a pass a target has a unit if it had one before, or if the ready
entries produce it. -/
theorem isSynthesized_runPass {target : TypeName} :
    (generator.runPass catalog pass entries).2.isSynthesized target = true ↔
      generator.isSynthesized target = true ∨
        target ∈ produced catalog (generator.readyEntries catalog entries) := by
  rw [isSynthesized_iff, isSynthesized_iff, mem_produced]
  refine mem_processAll.trans (or_congr_right ?_)
  constructor
  · rintro ⟨r, hr, htarget, heligible⟩
    have hready := mem_agenda.mp hr
    exact ⟨⟨r, hready, htarget⟩, (mem_readyEntries hready).2.1 ▸ heligible⟩
  · rintro ⟨⟨r, hr, htarget⟩, heligible⟩
    exact ⟨r, mem_agenda.mpr hr, htarget, (mem_readyEntries hr).2.1.symm ▸ heligible⟩

/-! ## §3 Units and their entries -/

/-- The units of a pass in order, each with the entry for which it was made. -/
def emissions (generator : Generator) (catalog : Catalog) (entries : List Entry) :
    List (Entry × SurrogateUnit) :=
  let agenda := generator.agenda catalog entries
  (agenda.zip (processAll generator.options generator.synthesized agenda).2).flatMap
    fun (ready, processed) => processed.units.map (ready.entry, ·)

/-- The units of the emissions are those that the pass reports. -/
theorem map_snd_emissions (generator : Generator) (catalog : Catalog) (pass : Nat)
    (entries : List Entry) :
    (generator.emissions catalog entries).map Prod.snd =
      (generator.runPass catalog pass entries).1.units := by
  have hlength := length_processAll generator.options generator.synthesized
    (generator.agenda catalog entries)
  have hzip := List.map_snd_zip (Nat.le_of_eq hlength)
  simp only [emissions, List.map_flatMap, List.map_map, Function.comp_def, List.map_id']
  rw [← List.flatMap_map, hzip]
  rfl

/-- A unit is made for a ready entry that lists its target, of a declaration
in the catalog; the target had no unit before the pass. -/
theorem of_mem_emissions {entry : Entry} {unit : SurrogateUnit}
    (h : (entry, unit) ∈ generator.emissions catalog entries) :
    ∃ ready ∈ generator.readyEntries catalog entries, ready.entry = entry ∧
      unit.target ∈ entry.targets ∧ unit.target ∉ generator.synthesized ∧
      ∃ decl, catalog.find? unit.target = some decl ∧
        ready.context.synthesize? unit.target decl.fields = some unit := by
  obtain ⟨⟨ready, processed⟩, hzip, hunit⟩ := List.mem_flatMap.mp h
  obtain ⟨made, hmade, heq⟩ := List.mem_map.mp hunit
  cases heq
  obtain ⟨earlier, later, hagenda, rfl⟩ := exists_processed hzip
  have hready : ready ∈ generator.readyEntries catalog entries :=
    mem_agenda.mp (hagenda ▸ List.mem_append_right earlier (List.mem_cons_self ..))
  obtain ⟨target, htarget, houtcome⟩ := mem_units_process.mp hmade
  obtain ⟨hnot, decl, hdecl, hsynthesize⟩ := unit?_outcome_eq_some_iff.mp houtcome
  obtain rfl : unit.target = target := (Context.synthesize?_eq_some hsynthesize).1
  refine ⟨ready, hready, rfl, htarget, fun hmem => hnot ?_, decl, ?_, hsynthesize⟩
  · exact mem_processAll.mpr (.inl hmem)
  · rw [← (mem_readyEntries hready).2.1]
    exact hdecl

/-- Each unit of a pass was made for an entry. -/
theorem exists_emission {unit : SurrogateUnit}
    (h : unit ∈ (generator.runPass catalog pass entries).1.units) :
    ∃ entry, (entry, unit) ∈ generator.emissions catalog entries := by
  rw [← map_snd_emissions] at h
  obtain ⟨⟨entry, _⟩, hemission, rfl⟩ := List.mem_map.mp h
  exact ⟨entry, hemission⟩

/-- The serializer of a unit has the name that is derived for its target. -/
theorem serializerName_of_mem_units {unit : SurrogateUnit}
    (h : unit ∈ (generator.runPass catalog pass entries).1.units) :
    unit.serializer.name = ((Naming.ofOptions generator.options).serializer unit.target).name := by
  obtain ⟨entry, hemission⟩ := exists_emission h
  obtain ⟨ready, hready, -, -, -, decl, -, hsynthesize⟩ := of_mem_emissions hemission
  rw [(Context.synthesize?_eq_some hsynthesize).2.1, (mem_readyEntries hready).2.2.1]

/-- The surrogate of a unit has the name that is derived for its target. -/
theorem surrogateName_of_mem_units {unit : SurrogateUnit}
    (h : unit ∈ (generator.runPass catalog pass entries).1.units) :
    unit.surrogate.name = (Naming.ofOptions generator.options).surrogate unit.target := by
  obtain ⟨entry, hemission⟩ := exists_emission h
  obtain ⟨ready, hready, -, -, -, decl, -, hsynthesize⟩ := of_mem_emissions hemission
  rw [Context.surrogateName_eq hsynthesize, (mem_readyEntries hready).2.2.1]

/-- Where types have fields of distinct names, units are synthesized from such. -/
theorem synthesized_of_mem_units
    (hcatalog : ∀ name decl, catalog.find? name = some decl → (decl.fields.map (·.name)).Nodup)
    {unit : SurrogateUnit} (h : unit ∈ (generator.runPass catalog pass entries).1.units) :
    unit.Synthesized := by
  obtain ⟨entry, hemission⟩ := exists_emission h
  obtain ⟨ready, -, -, -, -, decl, hdecl, hsynthesize⟩ := of_mem_emissions hemission
  exact ⟨ready.context, _, decl.fields, hcatalog _ decl hdecl, hsynthesize⟩

/-! ## §4 Diagnostics -/

/-- What a pass reports of an entry that it rejects; nothing of any other entry. -/
def rejections (generator : Generator) (catalog : Catalog) (entry : Entry) : List Diagnostic :=
  (generator.triage catalog entry).diagnostics

/-- What is reported of a rejected entry is about its overrides, under its name. -/
theorem exists_duplicate_of_mem_rejections {entry : Entry} {d : Diagnostic}
    (h : d ∈ generator.rejections catalog entry) :
    ∃ duplicate : DuplicateOverride, d = ⟨entry.name, duplicate.finding⟩ := by
  unfold rejections at h
  rcases triage_cases generator catalog entry with
    ⟨duplicates, -, hrejected⟩ | ⟨overrides, -, ⟨-, hready⟩ | ⟨-, hdeferred⟩⟩
  · rw [hrejected] at h
    obtain ⟨duplicate, -, rfl⟩ := List.mem_map.mp h
    exact ⟨duplicate, rfl⟩
  · rw [hready] at h
    cases h
  · rw [hdeferred] at h
    cases h

/-- A report tells of the rejected entries, then of derived serializers that
nothing provides, and then of the targets that were left out. -/
theorem diagnostics_runPass (generator : Generator) (catalog : Catalog) (pass : Nat)
    (entries : List Entry) :
    (generator.runPass catalog pass entries).1.diagnostics =
      entries.flatMap (generator.rejections catalog) ++
        (generator.readyEntries catalog entries).flatMap
          (generator.missing (produced catalog (generator.readyEntries catalog entries))) ++
        (processAll generator.options generator.synthesized
          (generator.agenda catalog entries)).2.flatMap (·.diagnostics) := by
  have hrejections : (entries.map (generator.triage catalog)).flatMap (·.diagnostics) =
      entries.flatMap (generator.rejections catalog) := List.flatMap_map ..
  rw [← hrejections]
  rfl

end Generator

end Surrogates
