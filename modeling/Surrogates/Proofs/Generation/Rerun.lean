/-
Surrogates.Proofs.Generation.Rerun — a pass run again makes nothing new.

After a pass that defers nothing, each target of a ready entry has a unit or
has no eligible fields (`synthesized_or_ineligible`), so that a second pass
finds no occurrence in it. Triage answers as before (`triage_after`), no entry
needs another one, and the entries are processed as they are declared
(`agenda_after`). No unit is left to make, and each entry gets its module
again: `runPass_again`.
-/
import Surrogates.Proofs.Generation.Modules
import Surrogates.Proofs.Generation.References

namespace Surrogates.Generator

variable {generator : Generator} {catalog : Catalog} {entries : List Entry} {pass : Nat}

/-! ## §1 What a pass settles -/

/-- After a pass, a target of a ready entry has a unit or no eligible fields. -/
theorem synthesized_or_ineligible (pass : Nat) {ready : Ready}
    (hready : ready ∈ generator.readyEntries catalog entries) {target : TypeName}
    (htarget : target ∈ ready.entry.targets) :
    target ∈ (generator.runPass catalog pass entries).2.synthesized ∨
      catalog.eligible target = [] := by
  by_cases heligible : catalog.eligible target = []
  · exact .inr heligible
  · left
    have hproduced : target ∈ produced catalog (generator.readyEntries catalog entries) :=
      mem_produced.mpr ⟨⟨ready, hready, htarget⟩, heligible⟩
    exact isSynthesized_iff.mp (isSynthesized_runPass.mpr (.inr hproduced))

/-- After a pass, no node in the targets of a ready entry is looked at again. -/
theorem occurrences_after (pass : Nat) {ready : Ready}
    (hready : ready ∈ generator.readyEntries catalog entries) :
    ready.context.occurrences (generator.runPass catalog pass entries).2.synthesized
      ready.entry.targets = [] := by
  refine List.eq_nil_iff_forall_not_mem.mpr fun o ho => ?_
  obtain ⟨target, htarget, hpending, field, hfield, -⟩ := Context.mem_occurrences.mp ho
  rw [(mem_readyEntries hready).2.1] at hfield
  rcases synthesized_or_ineligible pass hready htarget with hmem | hnone
  · exact hpending hmem
  · rw [hnone] at hfield
    cases hfield

/-- After a pass, a ready entry needs no derived serializer that has no unit. -/
theorem derivations_after {ready : Ready}
    (hready : ready ∈ generator.readyEntries catalog entries) :
    (generator.runPass catalog pass entries).2.derivations ready = [] := by
  rw [derivations, occurrences_after pass hready, List.filter_nil]

theorem providers_after {produced : List TypeName} (i : Nat) :
    (generator.runPass catalog pass entries).2.providers produced
      (generator.readyEntries catalog entries) i = [] := by
  unfold providers
  split
  · rfl
  · next ready hget =>
    have hneeds : (generator.runPass catalog pass entries).2.needs produced ready = [] := by
      rw [needs, derivations_after (List.mem_of_getElem? hget), List.map_nil, List.filter_nil]
    refine List.filter_eq_nil_iff.mpr fun j _ => ?_
    rw [hneeds]
    split <;> simp

/-! ## §2 After a pass that defers nothing -/

section

variable {later : Nat} (hnone : (generator.runPass catalog pass entries).1.deferred = [])
include hnone

/-- After a pass that deferred nothing, triage of its entries answers as
before. -/
theorem triage_after {entry : Entry} (hentry : entry ∈ entries) :
    (generator.runPass catalog pass entries).2.triage catalog entry =
      generator.triage catalog entry := by
  rcases triage_cases generator catalog entry with
    ⟨duplicates, hduplicates, hrejected⟩ | ⟨overrides, hoverrides, ⟨-, hready⟩ | ⟨-, hdeferred⟩⟩
  · rw [hrejected, triage, hduplicates]
  · have hsettled := occurrences_after pass (mem_readyEntries_iff.mpr ⟨entry, hentry, hready⟩)
    rw [hready]
    refine triage_of_known hoverrides ?_
    exact congrArg (Context.unknownTypes _) hsettled
  · have hdeferral := List.filterMap_eq_nil_iff.mp hnone _ (List.mem_map_of_mem hentry)
    rw [hdeferred] at hdeferral
    cases hdeferral

theorem readyEntries_after :
    (generator.runPass catalog pass entries).2.readyEntries catalog entries =
      generator.readyEntries catalog entries := by
  have htriage := List.map_congr_left fun entry hentry => triage_after hnone hentry
  rw [readyEntries, readyEntries, htriage]

/-- After a pass that deferred nothing, the entries are processed as they are
declared. -/
theorem agenda_after :
    (generator.runPass catalog pass entries).2.agenda catalog entries =
      generator.readyEntries catalog entries := by
  rw [agenda, scheduled, readyEntries_after hnone,
    Schedule.order_eq_range fun i _ => providers_after i, filterMap_range_getElem?]

theorem units_after :
    ((generator.runPass catalog pass entries).2.runPass catalog later entries).1.units = [] := by
  refine List.eq_nil_iff_forall_not_mem.mpr fun unit hunit => ?_
  obtain ⟨entry, hemission⟩ := exists_emission hunit
  obtain ⟨ready, hready, rfl, htarget, hpending, decl, hdecl, hsynthesize⟩ :=
    of_mem_emissions hemission
  rw [readyEntries_after hnone] at hready
  rcases synthesized_or_ineligible pass hready htarget with hmem | hineligible
  · exact hpending hmem
  · exact Context.eligible_ne_nil hdecl hsynthesize hineligible

theorem generator_after :
    ((generator.runPass catalog pass entries).2.runPass catalog later entries).2 =
      (generator.runPass catalog pass entries).2 := by
  have hsynthesized := synthesized_runPass (generator.runPass catalog pass entries).2 catalog later
    entries
  rw [units_after hnone, List.map_nil, List.append_nil] at hsynthesized
  exact congrArg (Generator.mk generator.options) hsynthesized

theorem deferred_after :
    ((generator.runPass catalog pass entries).2.runPass catalog later entries).1.deferred = [] := by
  rw [← hnone]
  have htriage := List.map_congr_left fun entry hentry => triage_after hnone hentry
  exact congrArg (List.filterMap Triage.deferral?) htriage

theorem noneMissing_after :
    ((generator.runPass catalog pass entries).2.runPass catalog later entries).1.NoneMissing := by
  intro name owner field type hmem
  obtain ⟨ready, hready, hmissing⟩ := missingSurrogate_mem_diagnostics_iff.mp hmem
  obtain ⟨o, ho, -⟩ := mem_missing.mp hmissing
  rw [readyEntries_after hnone] at hready
  rw [occurrences_after pass hready] at ho
  cases ho

/-- The modules of the second pass stand in the order of the entries. -/
theorem modules_after :
    ((generator.runPass catalog pass entries).2.runPass catalog later entries).1.modules =
      (entries.filter (generator.isReady catalog)).filterMap
        (·.moduleWhere generator.options
          (generator.runPass catalog pass entries).2.synthesized) := by
  rw [modules_eq, agenda_after hnone, generator_after hnone, map_entry_readyEntries]
  rfl

end

/-! ## §3 The second pass -/

/-- **Running again makes nothing new.** After a pass that defers no entry, a
further pass over the same catalog and entries makes no unit, defers nothing
and warns of no missing surrogate, and the targets with units are those of
before. It gives the modules of the first pass again, in the order in which
the entries are declared. -/
theorem runPass_again (generator : Generator) (catalog : Catalog) (pass later : Nat)
    (entries : List Entry) (hnone : (generator.runPass catalog pass entries).1.deferred = []) :
    let first := generator.runPass catalog pass entries
    let second := first.2.runPass catalog later entries
    second.1.units = [] ∧ second.1.deferred = [] ∧ second.1.NoneMissing ∧ second.2 = first.2 ∧
      second.1.modules.Perm first.1.modules ∧
      second.1.modules = (entries.filter (generator.isReady catalog)).filterMap
        (·.moduleWhere generator.options first.2.synthesized) := by
  intro first second
  refine ⟨units_after hnone, deferred_after hnone, noneMissing_after hnone, generator_after hnone,
    ?_, modules_after hnone⟩
  show ((generator.runPass catalog pass entries).2.runPass catalog later entries).1.modules.Perm _
  rw [modules_after hnone, modules_eq generator catalog pass entries]
  exact ((map_entry_agenda_perm generator catalog entries).filterMap _).symm

/-! ## §4 Orders once more -/

/-- Orders and lines, and the entry that is rejected. -/
def orderEntries : List Entry := [orderEntry, twiceEntry, lineEntry]

/-- The first pass over them. -/
def orderPass : PassReport × Generator :=
  (ofOptions .standard).runPass orderCatalog 1 orderEntries

/-- Orders wait for their lines in the first pass, but not in the second. -/
theorem runPass_again_orders :
    orderPass.1.deferred = [] ∧
      (orderPass.2.runPass orderCatalog 2 orderEntries).1.units = [] ∧
      (orderPass.2.runPass orderCatalog 2 orderEntries).2 = orderPass.2 ∧
      orderPass.1.modules.map (·.entry) = ["Lines", "Orders"] ∧
      (orderPass.2.runPass orderCatalog 2 orderEntries).1.modules.map (·.entry) =
        ["Orders", "Lines"] := by
  have hnone : orderPass.1.deferred = [] := rfl
  obtain ⟨hunits, _, _, hafter, _, hmodules⟩ :=
    runPass_again (ofOptions .standard) orderCatalog 1 2 orderEntries hnone
  refine ⟨hnone, hunits, hafter, rfl, ?_⟩
  rw [← orderPass] at hmodules
  rw [hmodules]
  rfl

end Surrogates.Generator
