/-
Surrogates.Proofs.Generation.Isolation — rejected and deferred entries leave no
trace.

Whatever a pass makes, it makes of its ready entries: passes with the same
ready entries make the same units and modules and end in the same state
(`runPass_congr`). What it reports besides is about second overrides, and each
such diagnostic is of an entry that is rejected (`diagnostics_eq_append`). So
a pass without the entries that are not ready makes the same and reports the
same, those diagnostics apart: `runPass_filter_isReady`.
-/
import Surrogates.Proofs.Generation.Modules

namespace Surrogates

/-- Whether a finding is about a second override. -/
def Finding.isAboutOverride : Finding → Bool
  | duplicateClassOverride _ => true
  | duplicateFieldOverride _ _ => true
  | _ => false

namespace Generator

variable {generator : Generator} {catalog : Catalog} {entries others : List Entry}

/-! ## §1 What the ready entries decide -/

theorem agenda_congr
    (h : generator.readyEntries catalog entries = generator.readyEntries catalog others) :
    generator.agenda catalog entries = generator.agenda catalog others := by
  rw [agenda, agenda, h]

/-- Passes with the same ready entries make the same and end in the same state. -/
theorem runPass_congr (pass : Nat)
    (h : generator.readyEntries catalog entries = generator.readyEntries catalog others) :
    (generator.runPass catalog pass entries).1.units =
        (generator.runPass catalog pass others).1.units ∧
      (generator.runPass catalog pass entries).1.modules =
        (generator.runPass catalog pass others).1.modules ∧
      (generator.runPass catalog pass entries).2 = (generator.runPass catalog pass others).2 :=
  runPass_congr_processAll pass (by rw [agenda_congr h])

/-- What a pass reports of its ready entries. -/
def readyDiagnostics (generator : Generator) (catalog : Catalog) (entries : List Entry) :
    List Diagnostic :=
  let ready := generator.readyEntries catalog entries
  ready.flatMap (generator.missing (produced catalog ready)) ++
    (processAll generator.options generator.synthesized
      (generator.agenda catalog entries)).2.flatMap (·.diagnostics)

theorem readyDiagnostics_congr
    (h : generator.readyEntries catalog entries = generator.readyEntries catalog others) :
    generator.readyDiagnostics catalog entries = generator.readyDiagnostics catalog others := by
  rw [readyDiagnostics, readyDiagnostics, agenda_congr h, h]

/-! ## §2 Diagnostics about overrides -/

/-- A report tells first of rejected entries, and then of those that are ready. -/
theorem diagnostics_eq_append (generator : Generator) (catalog : Catalog) (pass : Nat)
    (entries : List Entry) :
    (generator.runPass catalog pass entries).1.diagnostics =
      entries.flatMap (generator.rejections catalog) ++
        generator.readyDiagnostics catalog entries := by
  rw [diagnostics_runPass, List.append_assoc]
  rfl

theorem isAboutOverride_rejections {entry : Entry} {d : Diagnostic}
    (h : d ∈ generator.rejections catalog entry) :
    d.entry = entry.name ∧ d.finding.isAboutOverride = true := by
  obtain ⟨duplicate, rfl⟩ := exists_duplicate_of_mem_rejections h
  cases duplicate <;> exact ⟨rfl, rfl⟩

theorem isAboutOverride_readyDiagnostics {d : Diagnostic}
    (h : d ∈ generator.readyDiagnostics catalog entries) : d.finding.isAboutOverride = false := by
  rcases List.mem_append.mp h with hmissing | hprocessed
  · obtain ⟨ready, -, hmem⟩ := List.mem_flatMap.mp hmissing
    obtain ⟨o, -, rfl⟩ := List.mem_map.mp hmem
    rfl
  · obtain ⟨processed, hprocessed, hmem⟩ := List.mem_flatMap.mp hprocessed
    obtain ⟨ready, earlier, later, -, rfl⟩ := exists_split_of_mem hprocessed
    obtain ⟨target, -, rfl | rfl⟩ := mem_diagnostics_process hmem <;> rfl

/-- What is reported about second overrides is what is reported of the rejected
entries, and the rest is what is reported of the ready ones. -/
theorem filter_isAboutOverride_diagnostics (generator : Generator) (catalog : Catalog)
    (pass : Nat) (entries : List Entry) :
    (generator.runPass catalog pass entries).1.diagnostics.filter (·.finding.isAboutOverride) =
        entries.flatMap (generator.rejections catalog) ∧
      (generator.runPass catalog pass entries).1.diagnostics.filter
          (!·.finding.isAboutOverride) = generator.readyDiagnostics catalog entries := by
  have hrejections : ∀ d ∈ entries.flatMap (generator.rejections catalog),
      d.finding.isAboutOverride = true := by
    intro d hd
    obtain ⟨entry, -, hmem⟩ := List.mem_flatMap.mp hd
    exact (isAboutOverride_rejections hmem).2
  have hready : ∀ d ∈ generator.readyDiagnostics catalog entries,
      d.finding.isAboutOverride = false := fun _ => isAboutOverride_readyDiagnostics
  rw [diagnostics_eq_append, List.filter_append, List.filter_append]
  constructor
  · rw [List.filter_eq_self.mpr hrejections, List.filter_eq_nil_iff.mpr, List.append_nil]
    intro d hd
    simp [hready d hd]
  · rw [List.filter_eq_nil_iff.mpr, List.filter_eq_self.mpr, List.nil_append]
    · intro d hd
      simp [hready d hd]
    · intro d hd
      simp [hrejections d hd]

/-! ## §3 Passes without the entries that are not ready -/

theorem readyEntries_filter_isReady (generator : Generator) (catalog : Catalog)
    (entries : List Entry) :
    generator.readyEntries catalog (entries.filter (generator.isReady catalog)) =
      generator.readyEntries catalog entries := by
  simp only [readyEntries, List.filterMap_map, List.filterMap_filter]
  refine List.filterMap_congr fun entry _ => ?_
  rw [isReady, Function.comp_apply]
  cases (generator.triage catalog entry).ready? <;> rfl

/-- Of a ready entry no rejection is reported, and no deferral. -/
theorem triage_of_isReady {entry : Entry} (h : generator.isReady catalog entry = true) :
    generator.rejections catalog entry = [] ∧
      (generator.triage catalog entry).deferral? = none := by
  unfold rejections
  unfold isReady at h
  cases htriage : generator.triage catalog entry with
  | rejected diagnostics =>
    rw [htriage] at h
    cases h
  | deferred deferral =>
    rw [htriage] at h
    cases h
  | ready ready => exact ⟨rfl, rfl⟩

theorem deferred_filter_isReady (generator : Generator) (catalog : Catalog) (pass : Nat)
    (entries : List Entry) :
    (generator.runPass catalog pass (entries.filter (generator.isReady catalog))).1.deferred =
      [] := by
  refine List.filterMap_eq_nil_iff.mpr fun triaged htriaged => ?_
  obtain ⟨entry, hentry, rfl⟩ := List.mem_map.mp htriaged
  exact (triage_of_isReady (List.mem_filter.mp hentry).2).2

/-- **Failing entries leave no trace on the others.** A pass without the
entries that are rejected or deferred gives the same units and modules and
ends in the same state. Its diagnostics are the same but for those about
second overrides, each of which is of a rejected entry. -/
theorem runPass_filter_isReady (generator : Generator) (catalog : Catalog) (pass : Nat)
    (entries : List Entry) :
    let report := (generator.runPass catalog pass entries).1
    let kept := entries.filter (generator.isReady catalog)
    let alone := (generator.runPass catalog pass kept).1
    alone.units = report.units ∧ alone.modules = report.modules ∧
      (generator.runPass catalog pass kept).2 = (generator.runPass catalog pass entries).2 ∧
      alone.diagnostics = report.diagnostics.filter (!·.finding.isAboutOverride) ∧
      report.diagnostics.filter (·.finding.isAboutOverride) =
        entries.flatMap (generator.rejections catalog) ∧
      alone.deferred = [] := by
  intro report kept alone
  have hready : generator.readyEntries catalog kept = generator.readyEntries catalog entries :=
    readyEntries_filter_isReady generator catalog entries
  obtain ⟨hunits, hmodules, hafter⟩ := runPass_congr pass hready
  have hrejections : kept.flatMap (generator.rejections catalog) = [] := by
    refine List.flatMap_eq_nil_iff.mpr fun entry hentry => ?_
    exact (triage_of_isReady (List.mem_filter.mp hentry).2).1
  have hdiagnostics : alone.diagnostics = generator.readyDiagnostics catalog entries := by
    rw [← readyDiagnostics_congr hready]
    show (generator.runPass catalog pass kept).1.diagnostics = _
    rw [diagnostics_eq_append, hrejections, List.nil_append]
  refine ⟨hunits, hmodules, hafter, ?_, ?_, deferred_filter_isReady generator catalog pass entries⟩
  · rw [hdiagnostics]
    exact (filter_isAboutOverride_diagnostics generator catalog pass entries).2.symm
  · exact (filter_isAboutOverride_diagnostics generator catalog pass entries).1

end Generator

end Surrogates
