/-
Surrogates.Proofs.Generation.Pending — which entries a further pass is asked
for.

A deferral has the name of its entry, and nothing else tells which entry it is
of; names may be shared, as when configurations are joined. So what is pending
are all entries that share their name with one that is deferred
(`mem_pending_absorb`). They are the deferred ones exactly if no entry with
such a name is settled, rejected or processed, and then a further pass neither
rejects any of them nor gives an entry a second module: `pending_run`.
-/
import Surrogates.Proofs.Generation.Workflow

namespace Surrogates

/-! ## §1 Settled entries -/

namespace Stage

variable {stage : Stage} {entry : Entry}

/-- An entry is settled by a pass exactly if the pass does not defer it. -/
theorem mem_settled (hentry : entry ∈ stage.request.entries) :
    entry ∈ stage.rejected ++ stage.processed ↔ entry ∉ stage.deferred := by
  have hprocessed : entry ∈ stage.processed ↔ entry ∈ stage.request.entries ∧
      stage.before.isReady stage.request.catalog entry = true := Generator.mem_map_entry_agenda
  rw [List.mem_append, hprocessed]
  simp only [rejected, deferred, List.mem_filter, hentry, true_and]
  rcases Generator.isRejected_or stage.before stage.request.catalog entry with
    ⟨hrejected, hdeferred, hready⟩ | ⟨hrejected, hdeferred, hready⟩ |
      ⟨hrejected, hdeferred, hready⟩ <;> simp [hrejected, hdeferred, hready]

theorem mem_of_mem_settled (h : entry ∈ stage.rejected ++ stage.processed) :
    entry ∈ stage.request.entries := by
  rcases List.mem_append.mp h with hrejected | hprocessed
  · exact (List.mem_filter.mp hrejected).1
  · exact mem_of_mem_processed hprocessed

/-- A module is that of a processed entry. -/
theorem exists_processed_of_mem_modules {spec : SerializerModule}
    (h : spec ∈ stage.report.modules) : ∃ entry ∈ stage.processed, spec.entry = entry.name := by
  have hmodules : stage.report.modules = stage.processed.filterMap _ := Generator.modules_eq ..
  rw [hmodules] at h
  obtain ⟨entry, hentry, hspec⟩ := List.mem_filterMap.mp h
  exact ⟨entry, hentry, (Entry.names_of_moduleWhere hspec).1⟩

/-- A pass over entries that another one deferred rejects none of them, and it
gives none a module that shares its name with a settled one. -/
theorem modules_ne_of_deferred {again : Stage} (hasked : again.request.entries = stage.deferred)
    (hdistinct : ∀ waiting ∈ stage.deferred, ∀ settled ∈ stage.rejected ++ stage.processed,
      settled.name ≠ waiting.name) :
    again.rejected = [] ∧ ∀ spec ∈ stage.report.modules, ∀ further ∈ again.report.modules,
      further.entry ≠ spec.entry := by
  constructor
  · refine again.rejected_eq_nil fun entry hentry => ?_
    exact accepted_of_mem_deferred (hasked ▸ hentry)
  · intro spec hspec further hfurther heq
    obtain ⟨settled, hsettled, hname⟩ := exists_processed_of_mem_modules hspec
    obtain ⟨waiting, hwaiting, hnamed⟩ := exists_processed_of_mem_modules hfurther
    have hdeferred : waiting ∈ stage.deferred := hasked ▸ mem_of_mem_processed hwaiting
    refine hdistinct waiting hdeferred settled (List.mem_append_right _ hsettled) ?_
    rw [← hname, ← hnamed, heq]

end Stage

/-! ## §2 Pending entries -/

namespace Generation

variable {entries : List Entry}

/-- What is pending after a pass are the entries named like a deferred one. -/
theorem mem_pending_absorb (generation : Generation) (stage : Stage) {entry : Entry} :
    entry ∈ (generation.absorb stage.report).pending entries ↔
      entry ∈ entries ∧ ∃ waiting ∈ stage.deferred, waiting.name = entry.name := by
  have hnames : (∃ deferral ∈ stage.report.deferred, deferral.entry = entry.name) ↔
      entry.name ∈ stage.report.deferred.map (·.entry) := List.mem_map.symm
  rw [pending, List.mem_filter, List.any_eq_true]
  simp only [absorb, beq_iff_eq, hnames, stage.map_entry_report_deferred, List.mem_map]

/-- Every deferred entry is pending. -/
theorem deferred_sublist_pending (generation : Generation) (stage : Stage) :
    stage.deferred.Sublist ((generation.absorb stage.report).pending stage.request.entries) := by
  have hself : ((generation.absorb stage.report).pending stage.request.entries).filter
      (fun entry => (stage.before.triage stage.request.catalog entry).isDeferred) =
        stage.deferred := by
    rw [pending, List.filter_filter]
    refine List.filter_congr fun entry hentry => ?_
    rw [Bool.and_eq_left_iff_imp]
    intro hdeferred
    have hpending : entry ∈ (generation.absorb stage.report).pending stage.request.entries :=
      (mem_pending_absorb generation stage).mpr
        ⟨hentry, entry, List.mem_filter.mpr ⟨hentry, hdeferred⟩, rfl⟩
    exact (List.mem_filter.mp hpending).2
  rw [← hself]
  exact List.filter_sublist

/-- What is pending is what is deferred, unless an entry with the name of a
deferred one is settled. -/
theorem pending_eq_deferred_iff (generation : Generation) (stage : Stage) :
    (generation.absorb stage.report).pending stage.request.entries = stage.deferred ↔
      ∀ waiting ∈ stage.deferred, ∀ settled ∈ stage.rejected ++ stage.processed,
        settled.name ≠ waiting.name := by
  constructor
  · intro heq waiting hwaiting settled hsettled hname
    have hasked := Stage.mem_of_mem_settled hsettled
    have hpending : settled ∈ (generation.absorb stage.report).pending stage.request.entries :=
      (mem_pending_absorb generation stage).mpr ⟨hasked, waiting, hwaiting, hname.symm⟩
    exact (Stage.mem_settled hasked).mp hsettled (heq ▸ hpending)
  · intro hdistinct
    have hpending : ∀ entry ∈ (generation.absorb stage.report).pending stage.request.entries,
        (stage.before.triage stage.request.catalog entry).isDeferred = true := by
      intro entry hentry
      obtain ⟨hasked, waiting, hwaiting, hname⟩ := (mem_pending_absorb generation stage).mp hentry
      refine Classical.byContradiction fun hnot => ?_
      have hsettled := (Stage.mem_settled hasked).mpr fun h => hnot (List.mem_filter.mp h).2
      exact hdistinct waiting hwaiting entry hsettled hname.symm
    refine ((deferred_sublist_pending generation stage).antisymm ?_).symm
    rw [← List.filter_eq_self.mpr hpending]
    exact List.filter_sublist.filter _

end Generation

/-! ## §3 A further pass -/

/-- **What is pending after a run.** Pending are the deferred entries and
whichever others share their names, in the order of the entries. They are the
deferred ones exactly if no rejected or processed entry has the name of a
deferred one. A further pass over them, with any catalog, then rejects none,
and no module of it is of an entry that has a module. -/
theorem Generator.pending_run (generator : Generator) (catalog : Catalog)
    (entries : List Entry) :
    let stage : Stage := ⟨generator, ⟨catalog, 1, entries⟩⟩
    let pending := (generator.run catalog entries).1.pending entries
    pending.Sublist entries ∧ stage.deferred.Sublist pending ∧
      (∀ entry : Entry, entry ∈ pending ↔
        entry ∈ entries ∧ ∃ waiting ∈ stage.deferred, waiting.name = entry.name) ∧
      (pending = stage.deferred ↔
        ∀ waiting ∈ stage.deferred, ∀ settled ∈ stage.rejected ++ stage.processed,
          settled.name ≠ waiting.name) ∧
      (pending = stage.deferred →
        (∀ entry ∈ pending, entry ∉ stage.rejected ∧ entry ∉ stage.processed) ∧
          ∀ (other : Catalog) (number : Nat),
            let again : Stage := ⟨(generator.run catalog entries).2, ⟨other, number, pending⟩⟩
            again.rejected = [] ∧
              ∀ spec ∈ stage.report.modules, ∀ further ∈ again.report.modules,
                further.entry ≠ spec.entry) := by
  intro stage pending
  have hiff : pending = stage.deferred ↔ _ := Generation.pending_eq_deferred_iff .empty stage
  refine ⟨List.filter_sublist, Generation.deferred_sublist_pending .empty stage,
    fun entry => Generation.mem_pending_absorb .empty stage, hiff, fun hpending => ⟨?_, ?_⟩⟩
  · intro entry hentry
    have hdeferred : entry ∈ stage.deferred := hpending ▸ hentry
    have hasked : entry ∈ stage.request.entries := (List.mem_filter.mp hdeferred).1
    rw [← not_or, ← List.mem_append, Stage.mem_settled hasked, not_not]
    exact hdeferred
  · exact fun other number => Stage.modules_ne_of_deferred hpending (hiff.mp hpending)

/-! ## §4 Two entries of one name -/

/-- Events are on days of an unknown type. -/
def jobCatalog : Catalog := .ofList
  [⟨⟨"crate::Event"⟩, false, [⟨"at", .node ⟨"chrono::NaiveDate"⟩ [] false, .exported⟩]⟩,
   ⟨⟨"crate::hr::Position"⟩, false, [⟨"title", .node ⟨"String"⟩ [] false, .exported⟩]⟩]

/-- An entry that waits for the type of days. -/
def eventEntry : Entry := (Entry.named "Jobs").target ⟨"crate::Event"⟩

/-- An entry of the same name that waits for nothing. -/
def positionEntry : Entry := (Entry.named "Jobs").target ⟨"crate::hr::Position"⟩

/-- One entry from each of two configurations. -/
def jobConfiguration : Configuration :=
  Configuration.extend ⟨.standard, [eventEntry]⟩ ⟨.standard, [positionEntry]⟩

/-- The pass that a run over both entries makes. -/
def jobStage : Stage := ⟨.ofOptions .standard, ⟨jobCatalog, 1, jobConfiguration.entries⟩⟩

/-- What the run generates, and the generator after it. -/
def jobRun : Generation × Generator :=
  (Generator.ofOptions .standard).run jobCatalog jobConfiguration.entries

/-- The module of positions. -/
def jobModule : SerializerModule :=
  ⟨"JobsModule", "Jobs", [⟨⟨"crate::hr::Position"⟩, .derived ⟨"crate::hr::PositionSerializer"⟩⟩]⟩

/-- The entry of positions is processed, and pending all the same because it has
the name of the one that waits: the next pass gives it its module again. -/
theorem pending_jobs :
    jobConfiguration.check? = none ∧ jobStage.deferred = [eventEntry] ∧
      jobStage.processed = [positionEntry] ∧ jobStage.report.modules = [jobModule] ∧
      jobRun.1.pending jobConfiguration.entries = [eventEntry, positionEntry] ∧
      let again : Stage :=
        ⟨jobRun.2, ⟨jobCatalog, 2, jobRun.1.pending jobConfiguration.entries⟩⟩
      again.processed = [positionEntry] ∧ again.report.modules = [jobModule] :=
  ⟨by decide, rfl, rfl, rfl, rfl, rfl, rfl⟩

/-- Of two entries with names of their own, the one that waits is pending. -/
theorem pending_run_events :
    let entries := [eventEntry, { positionEntry with name := "Positions" }]
    let stage : Stage := ⟨.ofOptions .standard, ⟨jobCatalog, 1, entries⟩⟩
    ((Generator.ofOptions .standard).run jobCatalog entries).1.pending entries = [eventEntry] ∧
      eventEntry ∉ stage.processed := by
  intro entries stage
  obtain ⟨-, -, -, hiff, hsettled⟩ :=
    Generator.pending_run (.ofOptions .standard) jobCatalog entries
  have hdistinct : ∀ waiting ∈ stage.deferred, ∀ settled ∈ stage.rejected ++ stage.processed,
      settled.name ≠ waiting.name := by
    decide
  have hpending := hiff.mpr hdistinct
  have hdeferred : stage.deferred = [eventEntry] := by decide
  refine ⟨hpending.trans hdeferred, ((hsettled hpending).1 eventEntry ?_).2⟩
  rw [hpending, hdeferred]
  exact List.mem_singleton_self eventEntry

end Surrogates
