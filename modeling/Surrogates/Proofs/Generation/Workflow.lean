/-
Surrogates.Proofs.Generation.Workflow — passes until nothing waits.

A workflow runs a first pass over all entries, and then passes over the
entries that its generation defers, with any catalogs. A pass rejects, defers
or processes each entry that it is asked for (`Stage.count_eq`), and the next
one is asked for exactly those that it deferred (`pending_absorb`), which
cannot be rejected any more. So each entry, at any time, was rejected by the first
pass, or is deferred once, or was processed once: `exactly_once`.
-/
import Mathlib.Data.List.Nodup
import Surrogates.Proofs.Generation.Isolation
import Surrogates.Proofs.Generation.Passes

namespace Surrogates

/-! ## §1 Triage -/

namespace Triage

/-- Whether the entry is rejected. -/
def isRejected : Triage → Bool
  | rejected _ => true
  | _ => false

/-- Whether the entry is deferred. -/
def isDeferred : Triage → Bool
  | deferred _ => true
  | _ => false

end Triage

/-- No override of an entry is a second one. -/
def Entry.Accepted (entry : Entry) : Prop :=
  ∃ overrides, Overrides.ofEntry entry = .ok overrides

namespace Generator

variable {generator : Generator} {catalog : Catalog} {entry : Entry}

/-- Triage tells of exactly one of three states. -/
theorem isRejected_or (generator : Generator) (catalog : Catalog) (entry : Entry) :
    let triage := generator.triage catalog entry
    (triage.isRejected = true ∧ triage.isDeferred = false ∧
        generator.isReady catalog entry = false) ∨
      (triage.isRejected = false ∧ triage.isDeferred = true ∧
        generator.isReady catalog entry = false) ∨
      (triage.isRejected = false ∧ triage.isDeferred = false ∧
        generator.isReady catalog entry = true) := by
  dsimp only
  unfold isReady
  cases generator.triage catalog entry with
  | rejected diagnostics => exact .inl ⟨rfl, rfl, rfl⟩
  | deferred deferral => exact .inr (.inl ⟨rfl, rfl, rfl⟩)
  | ready ready => exact .inr (.inr ⟨rfl, rfl, rfl⟩)

/-- No pass rejects an accepted entry, and every pass any other entry. -/
theorem isRejected_triage_eq_false_iff (generator : Generator) (catalog : Catalog)
    (entry : Entry) :
    (generator.triage catalog entry).isRejected = false ↔ entry.Accepted := by
  rcases triage_cases generator catalog entry with
    ⟨duplicates, hduplicates, hrejected⟩ | ⟨overrides, hoverrides, ⟨-, hready⟩ | ⟨-, hdeferred⟩⟩
  · simp [hrejected, Triage.isRejected, Entry.Accepted, hduplicates]
  · simp [hready, Triage.isRejected, Entry.Accepted, hoverrides]
  · simp [hdeferred, Triage.isRejected, Entry.Accepted, hoverrides]

theorem rejections_eq_nil_iff : generator.rejections catalog entry = [] ↔ entry.Accepted := by
  unfold rejections
  rcases triage_cases generator catalog entry with
    ⟨duplicates, hduplicates, hrejected⟩ | ⟨overrides, hoverrides, ⟨-, hready⟩ | ⟨-, hdeferred⟩⟩
  · have hne := Overrides.ne_nil_of_ofEntry hduplicates
    simp [hrejected, Triage.diagnostics, Entry.Accepted, hduplicates, hne]
  · simp [hready, Triage.diagnostics, Entry.Accepted, hoverrides]
  · simp [hdeferred, Triage.diagnostics, Entry.Accepted, hoverrides]

/-- A deferral has the name of its entry. -/
theorem map_entry_deferred (generator : Generator) (catalog : Catalog) (pass : Nat)
    (entries : List Entry) :
    (generator.runPass catalog pass entries).1.deferred.map (·.entry) =
      (entries.filter fun entry => (generator.triage catalog entry).isDeferred).map (·.name) := by
  show ((entries.map (generator.triage catalog)).filterMap (·.deferral?)).map _ = _
  induction entries with
  | nil => rfl
  | cons entry rest ih =>
    rw [List.map_cons, List.filterMap_cons, List.filter_cons]
    rcases triage_cases generator catalog entry with
      ⟨duplicates, -, hrejected⟩ | ⟨overrides, -, ⟨-, hready⟩ | ⟨-, hdeferred⟩⟩
    · rw [hrejected]
      exact ih
    · rw [hready]
      exact ih
    · rw [hdeferred]
      exact congrArg (entry.name :: ·) ih

end Generator

/-! ## §2 One pass -/

/-- A pass of a workflow: the generator before it, and what it is asked for. -/
structure Stage where
  before : Generator
  request : PassRequest

namespace Stage

/-- What the pass reports. -/
def report (stage : Stage) : PassReport :=
  (stage.before.runPass stage.request.catalog stage.request.number stage.request.entries).1

/-- The entries that the pass rejects. -/
def rejected (stage : Stage) : List Entry :=
  stage.request.entries.filter fun entry =>
    (stage.before.triage stage.request.catalog entry).isRejected

/-- The entries that the pass defers. -/
def deferred (stage : Stage) : List Entry :=
  stage.request.entries.filter fun entry =>
    (stage.before.triage stage.request.catalog entry).isDeferred

/-- The entries that the pass processes, one after another. -/
def processed (stage : Stage) : List Entry :=
  (stage.before.agenda stage.request.catalog stage.request.entries).map (·.entry)

variable {stage : Stage} {entry : Entry}

/-- A pass rejects, defers or processes each entry as often as it is asked for it. -/
theorem count_eq (stage : Stage) (entry : Entry) :
    stage.rejected.count entry + stage.deferred.count entry + stage.processed.count entry =
      stage.request.entries.count entry := by
  have hprocessed := (Generator.map_entry_agenda_perm stage.before stage.request.catalog
    stage.request.entries).count_eq entry
  unfold rejected deferred processed
  rw [hprocessed, count_filter_eq_ite, count_filter_eq_ite, count_filter_eq_ite]
  rcases Generator.isRejected_or stage.before stage.request.catalog entry with
    ⟨hrejected, hdeferred, hready⟩ | ⟨hrejected, hdeferred, hready⟩ |
      ⟨hrejected, hdeferred, hready⟩ <;> simp [hrejected, hdeferred, hready]

theorem map_entry_report_deferred (stage : Stage) :
    stage.report.deferred.map (·.entry) = stage.deferred.map (·.name) :=
  Generator.map_entry_deferred ..

theorem accepted_of_mem_deferred (h : entry ∈ stage.deferred) : entry.Accepted := by
  refine (Generator.isRejected_triage_eq_false_iff stage.before stage.request.catalog entry).mp ?_
  have hdeferred := (List.mem_filter.mp h).2
  rcases Generator.isRejected_or stage.before stage.request.catalog entry with
    ⟨-, hnot, -⟩ | ⟨hrejected, -, -⟩ | ⟨hrejected, -, -⟩
  · rw [hnot] at hdeferred
    cases hdeferred
  · exact hrejected
  · exact hrejected

/-- A pass over accepted entries rejects none. -/
theorem rejected_eq_nil (h : ∀ entry ∈ stage.request.entries, entry.Accepted) :
    stage.rejected = [] := by
  refine List.filter_eq_nil_iff.mpr fun entry hentry => ?_
  rw [(Generator.isRejected_triage_eq_false_iff ..).mpr (h entry hentry)]
  exact Bool.false_ne_true

theorem mem_of_mem_processed (h : entry ∈ stage.processed) : entry ∈ stage.request.entries := by
  exact (Generator.mem_map_entry_agenda.mp h).1

/-- An entry gives at most one module each time it is processed. -/
theorem length_modules_le (entry : Entry)
    (h : ∀ other ∈ stage.request.entries, other.name = entry.name → other = entry) :
    (stage.report.modules.filter (·.entry == entry.name)).length ≤ stage.processed.count entry := by
  have hmodules : stage.report.modules = stage.processed.filterMap _ := Generator.modules_eq ..
  rw [hmodules, ← List.countP_eq_length_filter, List.countP_filterMap, List.count_eq_countP]
  refine List.countP_mono_left fun other hother hmodule => ?_
  unfold Entry.moduleWhere at hmodule
  dsimp only at hmodule
  split at hmodule
  · cases hmodule
  · simp only [Option.map_some, Option.getD_some, beq_iff_eq] at hmodule
    exact beq_iff_eq.mpr (h other (mem_of_mem_processed hother) hmodule)

end Stage

/-! ## §3 Workflows -/

/-- The passes of a workflow so far, what they generated together, and the
generator after them. -/
structure Workflow where
  first : Stage
  later : List Stage
  generation : Generation
  generator : Generator

namespace Workflow

/-- The workflow after its first pass, which is over all entries. -/
def start (generator : Generator) (catalog : Catalog) (entries : List Entry) : Workflow :=
  let (generation, after) := generator.run catalog entries
  { first := ⟨generator, ⟨catalog, 1, entries⟩⟩
    later := []
    generation
    generator := after }

/-- The workflow after one more pass, over the entries that are deferred. -/
def resume (workflow : Workflow) (entries : List Entry) (catalog : Catalog) (number : Nat) :
    Workflow :=
  let pending := workflow.generation.pending entries
  let (report, after) := workflow.generator.runPass catalog number pending
  { first := workflow.first
    later := workflow.later ++ [⟨workflow.generator, ⟨catalog, number, pending⟩⟩]
    generation := workflow.generation.absorb report
    generator := after }

/-- The workflow after further passes, which have catalogs and numbers of their
own. -/
def resumeAll (workflow : Workflow) (entries : List Entry) : List (Catalog × Nat) → Workflow
  | [] => workflow
  | (catalog, number) :: rest => (workflow.resume entries catalog number).resumeAll entries rest

/-- The workflow after a first pass and later ones. -/
def run (generator : Generator) (catalog : Catalog) (entries : List Entry)
    (later : List (Catalog × Nat)) : Workflow :=
  (start generator catalog entries).resumeAll entries later

/-- All passes so far. -/
def stages (workflow : Workflow) : List Stage :=
  workflow.first :: workflow.later

/-- How often an entry was rejected. -/
def rejections (workflow : Workflow) (entry : Entry) : Nat :=
  (workflow.stages.flatMap (·.rejected)).count entry

/-- How often an entry is listed as deferred. -/
def deferrals (workflow : Workflow) (entry : Entry) : Nat :=
  (workflow.generation.deferred.map (·.entry)).count entry.name

/-- How often an entry was processed. -/
def processings (workflow : Workflow) (entry : Entry) : Nat :=
  (workflow.stages.flatMap (·.processed)).count entry

/-- What every pass of a workflow keeps: entries that wait are accepted, and
each entry was rejected, waits or was processed, once in all. -/
structure Tracks (workflow : Workflow) (entries : List Entry) : Prop where
  gathered : workflow.generation = Generation.ofReports (workflow.stages.map (·.report))
  asked : ∀ stage ∈ workflow.stages, stage.request.entries ⊆ entries
  accepted : ∀ stage ∈ workflow.later, ∀ entry ∈ stage.request.entries, entry.Accepted
  named : workflow.generation.deferred.map (·.entry) =
    (workflow.generation.pending entries).map (·.name)
  waiting : ∀ entry ∈ workflow.generation.pending entries, entry.Accepted
  once : ∀ entry ∈ entries, workflow.rejections entry +
    (workflow.generation.pending entries).count entry + workflow.processings entry = 1

variable {workflow : Workflow} {entries : List Entry}

/-- Where names are distinct, the entries deferred last are those that wait. -/
theorem pending_absorb (hnames : (entries.map (·.name)).Nodup) (generation : Generation)
    (stage : Stage) (hasked : stage.request.entries.Sublist entries) :
    (generation.absorb stage.report).pending entries = stage.deferred := by
  have hpart : stage.deferred.Sublist entries := List.filter_sublist.trans hasked
  rw [← filter_contains_key_eq hnames hpart, ← stage.map_entry_report_deferred]
  refine List.filter_congr fun entry _ => ?_
  rw [Bool.eq_iff_iff]
  simp [Generation.absorb]

theorem tracks_start (hnames : (entries.map (·.name)).Nodup) (generator : Generator)
    (catalog : Catalog) : (start generator catalog entries).Tracks entries := by
  let stage : Stage := ⟨generator, ⟨catalog, 1, entries⟩⟩
  have hpending : (start generator catalog entries).generation.pending entries = stage.deferred :=
    pending_absorb hnames .empty stage (List.Sublist.refl entries)
  constructor
  case gathered => rfl
  case asked =>
    intro asked hasked
    rw [List.mem_singleton.mp hasked]
    exact List.Subset.refl entries
  case accepted =>
    intro later hlater
    cases hlater
  case named =>
    rw [hpending]
    exact stage.map_entry_report_deferred
  case waiting =>
    rw [hpending]
    exact fun entry => Stage.accepted_of_mem_deferred
  case once =>
    intro entry hentry
    have hcount := stage.count_eq entry
    have hentries : entries.count entry = 1 :=
      List.count_eq_one_of_mem hnames.of_map hentry
    rw [hpending, rejections, processings]
    show ([stage].flatMap (·.rejected)).count entry + _ +
      ([stage].flatMap (·.processed)).count entry = 1
    rw [List.flatMap_singleton, List.flatMap_singleton, hcount]
    exact hentries

theorem Tracks.resume (hnames : (entries.map (·.name)).Nodup) (h : workflow.Tracks entries)
    (catalog : Catalog) (number : Nat) :
    (workflow.resume entries catalog number).Tracks entries := by
  let stage : Stage := ⟨workflow.generator, ⟨catalog, number, workflow.generation.pending entries⟩⟩
  have hstages : (workflow.resume entries catalog number).stages = workflow.stages ++ [stage] := rfl
  have hpending : (workflow.resume entries catalog number).generation.pending entries =
      stage.deferred := pending_absorb hnames workflow.generation stage List.filter_sublist
  constructor
  case gathered =>
    rw [hstages, List.map_append, List.map_singleton, Generation.ofReports_append_singleton,
      ← h.gathered]
    rfl
  case asked =>
    intro asked hasked
    rw [hstages] at hasked
    rcases List.mem_append.mp hasked with hbefore | hlast
    · exact h.asked asked hbefore
    · rw [List.mem_singleton.mp hlast]
      exact List.filter_sublist.subset
  case accepted =>
    intro later hlater
    rcases List.mem_append.mp hlater with hbefore | hlast
    · exact h.accepted later hbefore
    · rw [List.mem_singleton.mp hlast]
      exact h.waiting
  case named =>
    rw [hpending]
    exact stage.map_entry_report_deferred
  case waiting =>
    rw [hpending]
    exact fun entry => Stage.accepted_of_mem_deferred
  case once =>
    -- what waited so far is what the new pass rejects, defers or processes
    intro entry hentry
    have hcount := stage.count_eq entry
    have honce := h.once entry hentry
    have hasked : stage.request.entries = workflow.generation.pending entries := rfl
    rw [hpending, rejections, processings, hstages, List.flatMap_append, List.flatMap_append,
      List.count_append, List.count_append, List.flatMap_singleton, List.flatMap_singleton]
    rw [rejections, processings, ← hasked] at honce
    omega

theorem Tracks.resumeAll (hnames : (entries.map (·.name)).Nodup) (h : workflow.Tracks entries)
    (later : List (Catalog × Nat)) : (workflow.resumeAll entries later).Tracks entries := by
  induction later generalizing workflow with
  | nil => exact h
  | cons pass rest ih => exact ih (h.resume hnames pass.1 pass.2)

theorem first_resumeAll (workflow : Workflow) (entries : List Entry)
    (later : List (Catalog × Nat)) :
    (workflow.resumeAll entries later).first = workflow.first := by
  induction later generalizing workflow with
  | nil => rfl
  | cons pass rest ih => exact ih (workflow.resume entries pass.1 pass.2)

/-! ## §4 What a workflow tells of an entry -/

variable {entry : Entry}

/-- Where names are distinct, an entry is listed as deferred as often as it
waits. -/
theorem Tracks.deferrals_eq (h : workflow.Tracks entries)
    (hnames : (entries.map (·.name)).Nodup) (hentry : entry ∈ entries) :
    workflow.deferrals entry = (workflow.generation.pending entries).count entry := by
  have hpart : (workflow.generation.pending entries).Sublist entries := List.filter_sublist
  have hmem : entry.name ∈ (workflow.generation.pending entries).map (·.name) ↔
      entry ∈ workflow.generation.pending entries := by
    refine ⟨fun hname => ?_, fun hmem => List.mem_map_of_mem hmem⟩
    obtain ⟨other, hother, heq⟩ := List.mem_map.mp hname
    rwa [← List.inj_on_of_nodup_map hnames (hpart.subset hother) hentry heq]
  have hnodup : (workflow.generation.pending entries).Nodup := hnames.of_map.sublist hpart
  have hnodupNames : ((workflow.generation.pending entries).map (·.name)).Nodup :=
    hnames.sublist (hpart.map _)
  rw [deferrals, h.named, hnodupNames.count, hnodup.count]
  simp only [hmem]

/-- No pass but the first rejects an entry. -/
theorem Tracks.rejected_later (h : workflow.Tracks entries) :
    ∀ stage ∈ workflow.later, stage.rejected = [] :=
  fun stage hstage => stage.rejected_eq_nil (h.accepted stage hstage)

theorem Tracks.rejections_eq (h : workflow.Tracks entries) :
    workflow.rejections entry = workflow.first.rejected.count entry := by
  rw [rejections, stages, List.flatMap_cons, List.flatMap_eq_nil_iff.mpr h.rejected_later,
    List.append_nil]

/-- All diagnostics about second overrides are those of the first pass. -/
theorem Tracks.filter_isAboutOverride (h : workflow.Tracks entries) :
    workflow.generation.diagnostics.filter (·.finding.isAboutOverride) =
      workflow.first.request.entries.flatMap
        (workflow.first.before.rejections workflow.first.request.catalog) := by
  have hstage : ∀ stage : Stage, stage.report.diagnostics.filter (·.finding.isAboutOverride) =
      stage.request.entries.flatMap (stage.before.rejections stage.request.catalog) :=
    fun stage => (Generator.filter_isAboutOverride_diagnostics ..).1
  have hlater : ∀ stage ∈ workflow.later,
      stage.request.entries.flatMap (stage.before.rejections stage.request.catalog) = [] := by
    intro stage hmem
    refine List.flatMap_eq_nil_iff.mpr fun entry hentry => ?_
    exact Generator.rejections_eq_nil_iff.mpr (h.accepted stage hmem entry hentry)
  rw [h.gathered, Generation.ofReports, Generation.diagnostics_foldl_absorb, List.flatMap_map,
    Generation.empty, List.nil_append, List.filter_flatMap]
  simp only [hstage]
  rw [stages, List.flatMap_cons, List.flatMap_eq_nil_iff.mpr hlater, List.append_nil]

/-- An entry gives at most one module each time it is processed. -/
theorem Tracks.length_modules_le (h : workflow.Tracks entries)
    (hnames : (entries.map (·.name)).Nodup) (hentry : entry ∈ entries) :
    (workflow.generation.modules.filter (·.entry == entry.name)).length ≤
      workflow.processings entry := by
  have hstages : ∀ stages : List Stage, (∀ stage ∈ stages, stage.request.entries ⊆ entries) →
      ((stages.flatMap (·.report.modules)).filter (·.entry == entry.name)).length ≤
        (stages.flatMap (·.processed)).count entry := by
    intro stages hasked
    induction stages with
    | nil => exact Nat.le_refl 0
    | cons stage rest ih =>
      have hstage := stage.length_modules_le entry fun other hother heq =>
        List.inj_on_of_nodup_map hnames (hasked stage List.mem_cons_self hother) hentry heq
      have hrest := ih fun other hother => hasked other (List.mem_cons_of_mem _ hother)
      rw [List.flatMap_cons, List.filter_append, List.length_append, List.flatMap_cons,
        List.count_append]
      omega
  rw [h.gathered, Generation.ofReports, Generation.modules_foldl_absorb, List.flatMap_map,
    Generation.empty, List.nil_append]
  exact hstages workflow.stages h.asked

theorem Tracks.isResolved_iff (h : workflow.Tracks entries) :
    workflow.generation.isResolved = true ↔ ∀ entry ∈ entries, workflow.deferrals entry = 0 := by
  unfold Generation.isResolved deferrals
  rw [List.isEmpty_iff]
  constructor
  · intro hnone entry _
    rw [hnone]
    rfl
  · intro hzero
    refine List.eq_nil_iff_forall_not_mem.mpr fun deferral hdeferral => ?_
    have hname : deferral.entry ∈ (workflow.generation.pending entries).map (·.name) :=
      h.named ▸ List.mem_map_of_mem hdeferral
    obtain ⟨entry, hentry, heq⟩ := List.mem_map.mp hname
    have hnot := List.count_eq_zero.mp (hzero entry (List.mem_filter.mp hentry).1)
    exact hnot (heq ▸ List.mem_map_of_mem hdeferral)

end Workflow

namespace Generator

/-- Where names are distinct, what is reported of rejected entries under the
name of an entry is reported of that entry. -/
theorem filter_rejections (generator : Generator) (catalog : Catalog) {entries : List Entry}
    (hnames : (entries.map (·.name)).Nodup) {entry : Entry} (hentry : entry ∈ entries) :
    (entries.flatMap (generator.rejections catalog)).filter (·.entry == entry.name) =
      generator.rejections catalog entry := by
  induction entries with
  | nil => cases hentry
  | cons first rest ih =>
    obtain ⟨hfresh, hrest⟩ := List.nodup_cons.mp hnames
    rw [List.flatMap_cons, List.filter_append]
    rcases List.mem_cons.mp hentry with rfl | hmem
    · rw [List.filter_eq_self.mpr, List.filter_eq_nil_iff.mpr, List.append_nil]
      · intro d hd heq
        obtain ⟨other, hother, hreported⟩ := List.mem_flatMap.mp hd
        rw [(isAboutOverride_rejections hreported).1, beq_iff_eq] at heq
        exact hfresh (List.mem_map.mpr ⟨other, hother, heq⟩)
      · intro d hd
        exact beq_iff_eq.mpr (isAboutOverride_rejections hd).1
    · rw [List.filter_eq_nil_iff.mpr, List.nil_append, ih hrest hmem]
      intro d hd heq
      rw [(isAboutOverride_rejections hd).1, beq_iff_eq] at heq
      exact hfresh (List.mem_map.mpr ⟨entry, hmem, heq.symm⟩)

end Generator

namespace Workflow

/-- **Each entry once.** However many passes follow the first one, and with
whatever catalogs, each entry was rejected, is deferred or was processed, and
that once in all; and it gave no more modules than it was processed. It is the
first pass that rejects, and diagnostics about second overrides tell of it.
The generation is resolved exactly if it lists no entry as deferred. -/
theorem exactly_once (generator : Generator) (catalog : Catalog) (entries : List Entry)
    (later : List (Catalog × Nat)) (hnames : (entries.map (·.name)).Nodup) :
    let workflow := run generator catalog entries later
    (∀ entry ∈ entries,
      workflow.rejections entry + workflow.deferrals entry + workflow.processings entry = 1 ∧
      workflow.generation.diagnostics.filter
          (fun d => d.entry == entry.name && d.finding.isAboutOverride) =
        generator.rejections catalog entry ∧
      (workflow.rejections entry = 1 ↔ generator.rejections catalog entry ≠ []) ∧
      (workflow.generation.modules.filter (·.entry == entry.name)).length ≤
        workflow.processings entry) ∧
    (∀ stage ∈ workflow.later, stage.rejected = []) ∧
    (workflow.generation.isResolved = true ↔
      ∀ entry ∈ entries, workflow.deferrals entry = 0) := by
  intro workflow
  have htracks : workflow.Tracks entries :=
    (tracks_start hnames generator catalog).resumeAll hnames later
  have hfirst : workflow.first = ⟨generator, ⟨catalog, 1, entries⟩⟩ :=
    first_resumeAll (start generator catalog entries) entries later
  refine ⟨fun entry hentry => ⟨?_, ?_, ?_, htracks.length_modules_le hnames hentry⟩,
    htracks.rejected_later, htracks.isResolved_iff⟩
  · rw [htracks.deferrals_eq hnames hentry]
    exact htracks.once entry hentry
  · rw [← List.filter_filter, htracks.filter_isAboutOverride, hfirst]
    exact generator.filter_rejections catalog hnames hentry
  · have hone : entries.count entry = 1 := List.count_eq_one_of_mem hnames.of_map hentry
    rw [htracks.rejections_eq, hfirst, Stage.rejected, count_filter_eq_ite, hone, Ne,
      Generator.rejections_eq_nil_iff,
      ← generator.isRejected_triage_eq_false_iff catalog entry]
    simp

/-! ## §5 Orders before their lines are known -/

/-- Orders and stocks are known, but the lines of orders are not. -/
def stockCatalog : Catalog := .ofList
  [⟨⟨"Order"⟩, false, [⟨"lines", .node ⟨"Vec"⟩ [.node ⟨"Line"⟩ [] false] false, .exported⟩]⟩,
   ⟨⟨"Stock"⟩, false, [⟨"size", .node ⟨"u32"⟩ [] false, .exported⟩]⟩]

/-- An entry that is rejected, one that waits for lines, and one that does not. -/
def stockEntries : List Entry :=
  [Generator.twiceEntry, Generator.orderEntry, (Entry.named "Stocks").target ⟨"Stock"⟩]

/-- A pass before lines are known, and perhaps one after. -/
def stockWorkflow (later : List (Catalog × Nat)) : Workflow :=
  run (.ofOptions .standard) stockCatalog stockEntries later

/-- Orders wait for their lines, and are processed in the second pass. -/
theorem exactly_once_orders :
    (stockEntries.map (·.name)).Nodup ∧
      (stockWorkflow []).deferrals Generator.orderEntry = 1 ∧
      (stockWorkflow []).processings Generator.orderEntry = 0 ∧
      (stockWorkflow [(Generator.orderCatalog, 2)]).processings Generator.orderEntry = 1 ∧
      (stockWorkflow [(Generator.orderCatalog, 2)]).rejections Generator.twiceEntry = 1 ∧
      (stockWorkflow [(Generator.orderCatalog, 2)]).generation.isResolved = true := by
  have hnames : (stockEntries.map (·.name)).Nodup := by decide
  have horder : Generator.orderEntry ∈ stockEntries := by decide
  have htwice : Generator.twiceEntry ∈ stockEntries := by decide
  obtain ⟨hbefore, _, _⟩ := exactly_once (.ofOptions .standard) stockCatalog stockEntries [] hnames
  obtain ⟨hafter, _, hresolved⟩ := exactly_once (.ofOptions .standard) stockCatalog stockEntries
    [(Generator.orderCatalog, 2)] hnames
  have hwaits : (stockWorkflow []).deferrals Generator.orderEntry = 1 := by decide
  have hsettled : ∀ entry ∈ stockEntries,
      (stockWorkflow [(Generator.orderCatalog, 2)]).deferrals entry = 0 := by decide
  have haccepted :
      (stockWorkflow [(Generator.orderCatalog, 2)]).rejections Generator.orderEntry = 0 := by
    decide
  refine ⟨hnames, hwaits, ?_, ?_, ?_, hresolved.mpr hsettled⟩
  · have honce := (hbefore Generator.orderEntry horder).1
    rw [← stockWorkflow] at honce
    omega
  · have honce := (hafter Generator.orderEntry horder).1
    have hnot := hsettled Generator.orderEntry horder
    rw [← stockWorkflow] at honce
    omega
  · exact (hafter Generator.twiceEntry htwice).2.2.1.mpr (by decide)

end Workflow

end Surrogates
