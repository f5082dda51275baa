/-
Surrogates.Proofs.Generation.RepeatedTargets — targets that an entry lists more
than once.

Units and modules are made of distinct targets, and the order of processing
asks only which targets there are: a pass makes the same, in the same order,
whether or not targets are repeated. But it gathers the reasons of a deferral
and the warnings about missing surrogates target by target, so that those of
a repeated target are repeated too. Nothing else changes in a report, and so
it stays the same exactly if it has nothing on repeated targets:
`runPass_distinct`.
-/
import Mathlib.Data.List.Forall2
import Surrogates.Proofs.Generation.Deferral
import Surrogates.Proofs.Generation.MissingSurrogates

namespace Surrogates

/-! ## §1 Entries with some of their targets -/

/-- The entry with each of its targets once, where it is listed first. -/
def Entry.distinct (entry : Entry) : Entry :=
  { entry with targets := entry.targets.eraseDups }

/-- The entry with one target. -/
def Entry.only (entry : Entry) (target : TypeName) : Entry :=
  { entry with targets := [target] }

/-- A ready entry with each of its targets once. -/
def Ready.distinct (ready : Ready) : Ready :=
  ⟨ready.entry.distinct, ready.context⟩

/-- A ready entry with one target. -/
def Ready.only (ready : Ready) (target : TypeName) : Ready :=
  ⟨ready.entry.only target, ready.context⟩

@[simp] theorem Ready.context_distinct (ready : Ready) :
    ready.distinct.context = ready.context := rfl

@[simp] theorem Ready.mem_targets_distinct {ready : Ready} {target : TypeName} :
    target ∈ ready.distinct.entry.targets ↔ target ∈ ready.entry.targets :=
  List.mem_eraseDups

theorem PassReport.eq_iff {a b : PassReport} :
    a = b ↔ a.pass = b.pass ∧ a.units = b.units ∧ a.modules = b.modules ∧
      a.diagnostics = b.diagnostics ∧ a.deferred = b.deferred := by
  cases a
  cases b
  simp only [mk.injEq]

namespace Entry

variable {entry : Entry} {catalog : Catalog} {synthesized : List TypeName}

/-- Unknown types are gathered target by target. -/
theorem unknownTypes_eq_flatMap (entry : Entry) (catalog : Catalog)
    (synthesized : List TypeName) :
    entry.unknownTypes catalog synthesized =
      entry.targets.flatMap fun target => (entry.only target).unknownTypes catalog synthesized :=
  flatMap_filter_eq_flatMap ..

theorem unknownTypes_distinct (entry : Entry) (catalog : Catalog) (synthesized : List TypeName) :
    entry.distinct.unknownTypes catalog synthesized =
      entry.targets.eraseDups.flatMap fun target =>
        (entry.only target).unknownTypes catalog synthesized :=
  unknownTypes_eq_flatMap entry.distinct catalog synthesized

theorem unknownTypes_distinct_sublist :
    (entry.distinct.unknownTypes catalog synthesized).Sublist
      (entry.unknownTypes catalog synthesized) := by
  rw [unknownTypes_distinct, unknownTypes_eq_flatMap]
  exact (eraseDups_sublist _).flatMap _

theorem mem_unknownTypes_distinct {reason : UnknownType} :
    reason ∈ entry.distinct.unknownTypes catalog synthesized ↔
      reason ∈ entry.unknownTypes catalog synthesized := by
  simp only [unknownTypes_distinct, unknownTypes_eq_flatMap entry, List.mem_flatMap,
    List.mem_eraseDups]

theorem unknownTypes_distinct_eq_nil_iff :
    entry.distinct.unknownTypes catalog synthesized = [] ↔
      entry.unknownTypes catalog synthesized = [] := by
  simp only [List.eq_nil_iff_forall_not_mem, mem_unknownTypes_distinct]

theorem owner_of_mem_unknownTypes_only {target : TypeName} {reason : UnknownType}
    (h : reason ∈ (entry.only target).unknownTypes catalog synthesized) :
    reason.owner = target := by
  obtain ⟨listed, hlisted, hreason⟩ := List.mem_flatMap.mp h
  obtain rfl := List.mem_singleton.mp (List.mem_filter.mp hlisted).1
  obtain ⟨field, -, hfield⟩ := List.mem_flatMap.mp hreason
  obtain ⟨node, -, rfl⟩ := List.mem_map.mp hfield
  rfl

/-- A target has unknown types if they are among those of the entry. -/
theorem unknownTypes_only_eq_nil_iff {target : TypeName} (h : target ∈ entry.targets) :
    (entry.only target).unknownTypes catalog synthesized = [] ↔
      ∀ reason ∈ entry.unknownTypes catalog synthesized, reason.owner ≠ target := by
  rw [unknownTypes_eq_flatMap entry, List.eq_nil_iff_forall_not_mem]
  constructor
  · intro hnone reason hreason howner
    obtain ⟨listed, -, hlisted⟩ := List.mem_flatMap.mp hreason
    obtain rfl := (owner_of_mem_unknownTypes_only hlisted).symm.trans howner
    exact hnone reason hlisted
  · intro hnone reason hreason
    exact hnone reason (List.mem_flatMap.mpr ⟨target, h, hreason⟩)
      (owner_of_mem_unknownTypes_only hreason)

end Entry

namespace Generator

variable {generator : Generator} {catalog : Catalog} {entries : List Entry}

/-! ## §2 Triage -/

/-- Listing targets once leaves triage as it is, but for the reasons of a
deferral. -/
theorem triage_distinct (entry : Entry) :
    generator.triage catalog entry.distinct =
      match generator.triage catalog entry with
      | .rejected diagnostics => .rejected diagnostics
      | .deferred deferral =>
        .deferred ⟨deferral.entry, entry.distinct.unknownTypes catalog generator.synthesized⟩
      | .ready ready => .ready ready.distinct := by
  have hsame : Overrides.ofEntry entry.distinct = Overrides.ofEntry entry := rfl
  rcases triage_cases generator catalog entry with
    ⟨duplicates, herror, hrejected⟩ | ⟨overrides, hok, htriage⟩
  · rw [hrejected]
    unfold triage
    rw [hsame, herror]
    rfl
  · have hok' : Overrides.ofEntry entry.distinct = .ok overrides := hsame.trans hok
    simp only [unknownTypes_triage hok] at htriage
    rcases htriage with ⟨hnone, hready⟩ | ⟨hsome, hdeferred⟩
    · rw [hready]
      exact triage_of_known hok'
        ((unknownTypes_triage hok').trans (Entry.unknownTypes_distinct_eq_nil_iff.mpr hnone))
    · rw [hdeferred]
      refine triage_eq_deferred_iff.mpr ⟨⟨?_, ?_⟩, rfl⟩
      · exact Overrides.isOk_ofEntry_iff.mp ⟨overrides, hok'⟩
      · exact mt Entry.unknownTypes_distinct_eq_nil_iff.mp hsome

theorem rejections_distinct (entry : Entry) :
    generator.rejections catalog entry.distinct = generator.rejections catalog entry := by
  rw [rejections, rejections, triage_distinct]
  cases generator.triage catalog entry <;> rfl

theorem readyEntries_distinct (generator : Generator) (catalog : Catalog) (entries : List Entry) :
    generator.readyEntries catalog (entries.map (·.distinct)) =
      (generator.readyEntries catalog entries).map (·.distinct) := by
  have hready : ∀ entry, (generator.triage catalog entry.distinct).ready? =
      (generator.triage catalog entry).ready?.map (·.distinct) := by
    intro entry
    rw [triage_distinct]
    cases generator.triage catalog entry <;> rfl
  simp only [readyEntries, List.map_map, List.filterMap_map, List.map_filterMap, Function.comp_def,
    hready]

/-! ## §3 Ready entries -/

section

variable {known : List TypeName} {ready : List Ready} {r : Ready}

/-- The same targets are produced. -/
theorem mem_produced_distinct {target : TypeName} :
    target ∈ produced catalog (ready.map (·.distinct)) ↔ target ∈ produced catalog ready := by
  simp only [mem_produced, List.mem_map, exists_exists_and_eq_and, Ready.mem_targets_distinct]

theorem mem_derivations_distinct {o : Occurrence} :
    o ∈ generator.derivations r.distinct ↔ o ∈ generator.derivations r := by
  simp only [mem_derivations, Context.mem_occurrences, Ready.context_distinct,
    Ready.mem_targets_distinct]

theorem mem_needs_distinct {type : TypeName} :
    type ∈ generator.needs (produced catalog (ready.map (·.distinct))) r.distinct ↔
      type ∈ generator.needs (produced catalog ready) r := by
  simp only [needs, List.mem_filter, List.mem_map, List.contains_eq_mem, mem_derivations_distinct,
    mem_produced_distinct, Ready.mem_targets_distinct]

/-- The same entries provide for each other. -/
theorem providers_distinct (i : Nat) :
    generator.providers (produced catalog (ready.map (·.distinct))) (ready.map (·.distinct)) i =
      generator.providers (produced catalog ready) ready i := by
  have hany : ∀ r other : Ready,
      other.distinct.entry.targets.any
          (generator.needs (produced catalog (ready.map (·.distinct))) r.distinct).contains =
        other.entry.targets.any (generator.needs (produced catalog ready) r).contains := by
    intro r other
    rw [Bool.eq_iff_iff, List.any_eq_true, List.any_eq_true]
    simp only [List.contains_iff_mem, Ready.mem_targets_distinct, mem_needs_distinct]
  unfold providers
  rw [List.getElem?_map]
  cases ready[i]? with
  | none => rfl
  | some r =>
    simp only [Option.map_some, List.length_map, List.getElem?_map]
    refine List.filter_congr fun j _ => ?_
    cases ready[j]? with
    | none => rfl
    | some other => simp only [Option.map_some, hany]

/-- They are processed in the same order. -/
theorem agenda_distinct (generator : Generator) (catalog : Catalog) (entries : List Entry) :
    generator.agenda catalog (entries.map (·.distinct)) =
      (generator.agenda catalog entries).map (·.distinct) := by
  have hproviders : generator.providers
      (produced catalog ((generator.readyEntries catalog entries).map (·.distinct)))
      ((generator.readyEntries catalog entries).map (·.distinct)) =
        generator.providers (produced catalog (generator.readyEntries catalog entries))
          (generator.readyEntries catalog entries) := funext providers_distinct
  simp only [agenda, scheduled, readyEntries_distinct, hproviders, List.length_map,
    List.map_filterMap, List.getElem?_map]

/-- What an entry gets is made of distinct targets anyway. -/
theorem process_distinct (options : Options) (synthesized : List TypeName) (r : Ready) :
    process options synthesized r.distinct = process options synthesized r := by
  have htargets : r.distinct.entry.targets.eraseDups = r.entry.targets.eraseDups :=
    eraseDups_of_nodup (nodup_eraseDups _)
  have houtcomes : outcomes synthesized r.distinct = outcomes synthesized r := by
    rw [outcomes, outcomes, htargets]
    rfl
  unfold process
  rw [houtcomes]
  rfl

theorem processAll_distinct (options : Options) (synthesized : List TypeName)
    (ready : List Ready) :
    processAll options synthesized (ready.map (·.distinct)) =
      processAll options synthesized ready := by
  induction ready generalizing synthesized with
  | nil => rfl
  | cons r rest ih =>
    rw [List.map_cons, processAll_cons, processAll_cons, process_distinct, ih]

/-! ## §4 Warnings -/

/-- Warnings are gathered target by target. -/
theorem missing_eq_flatMap (generator : Generator) (known : List TypeName) (r : Ready) :
    generator.missing known r =
      r.entry.targets.flatMap fun target => generator.missing known (r.only target) := by
  have hoccurrences : r.context.occurrences generator.synthesized r.entry.targets =
      r.entry.targets.flatMap fun target =>
        r.context.occurrences generator.synthesized [target] := flatMap_filter_eq_flatMap ..
  simp only [missing, derivations, hoccurrences, List.filter_flatMap, List.map_flatMap]
  rfl

theorem missing_distinct (generator : Generator) (known : List TypeName) (r : Ready) :
    generator.missing known r.distinct =
      r.entry.targets.eraseDups.flatMap fun target => generator.missing known (r.only target) :=
  missing_eq_flatMap generator known r.distinct

/-- Warnings depend only on which targets are produced. -/
theorem missing_produced_distinct :
    generator.missing (produced catalog (ready.map (·.distinct))) r =
      generator.missing (produced catalog ready) r := by
  simp only [missing, List.contains_eq_mem, mem_produced_distinct]

theorem missing_distinct_sublist :
    (generator.missing known r.distinct).Sublist (generator.missing known r) := by
  rw [missing_distinct, missing_eq_flatMap]
  exact (eraseDups_sublist _).flatMap _

theorem mem_missing_distinct {d : Diagnostic} :
    d ∈ generator.missing known r.distinct ↔ d ∈ generator.missing known r := by
  simp only [missing_distinct, missing_eq_flatMap generator known r, List.mem_flatMap,
    List.mem_eraseDups]

/-- A target has warnings if they are among those of the entry. -/
theorem missing_only_eq_nil_iff {target : TypeName} (h : target ∈ r.entry.targets) :
    generator.missing known (r.only target) = [] ↔
      ∀ field type, ⟨r.entry.name, .missingSurrogate target field type⟩ ∉
        generator.missing known r := by
  have howner : ∀ {listed : TypeName} {d : Diagnostic},
      d ∈ generator.missing known (r.only listed) →
        ∃ field type, d = ⟨r.entry.name, .missingSurrogate listed field type⟩ := by
    intro listed d hd
    obtain ⟨o, ho, -, -, -, rfl⟩ := mem_missing.mp hd
    obtain ⟨owner, htarget, -, field, -, hfield⟩ := Context.mem_occurrences.mp ho
    obtain rfl := List.mem_singleton.mp htarget
    rw [(Context.owner_of_mem_occurrencesInField hfield).1]
    exact ⟨_, _, rfl⟩
  rw [missing_eq_flatMap generator known r, List.eq_nil_iff_forall_not_mem]
  constructor
  · intro hnone field type hmem
    obtain ⟨listed, -, hlisted⟩ := List.mem_flatMap.mp hmem
    obtain ⟨_, _, heq⟩ := howner hlisted
    cases heq
    exact hnone _ hlisted
  · intro hnone d hd
    obtain ⟨field, type, rfl⟩ := howner hd
    exact hnone field type (List.mem_flatMap.mpr ⟨target, h, hd⟩)

end

/-! ## §5 Reports -/

/-- Whether a pass has something to report of the fields of a target of an entry:
types that are unknown, or derived serializers that no entry provides. -/
inductive ReportsOn (generator : Generator) (catalog : Catalog) (entries : List Entry)
    (entry : Entry) (target : TypeName) : Prop where
  | deferred {deferral : Deferral} (triaged : generator.triage catalog entry = .deferred deferral)
      {reason : UnknownType} (given : reason ∈ deferral.reasons) (owner : reason.owner = target)
  | warned {ready : Ready} (triaged : generator.triage catalog entry = .ready ready)
      {field : String} {type : TypeName}
      (given : ⟨entry.name, .missingSurrogate target field type⟩ ∈
        generator.missing (produced catalog (generator.readyEntries catalog entries)) ready)

/-- Reasons stay as they are exactly if there is nothing to report of repeated
targets. -/
theorem unknownTypes_distinct_eq_iff {entry : Entry} {deferral : Deferral}
    (h : generator.triage catalog entry = .deferred deferral) :
    entry.distinct.unknownTypes catalog generator.synthesized =
        entry.unknownTypes catalog generator.synthesized ↔
      ∀ target, 2 ≤ entry.targets.count target →
        ¬generator.ReportsOn catalog entries entry target := by
  obtain ⟨-, rfl⟩ := triage_eq_deferred_iff.mp h
  rw [Entry.unknownTypes_distinct, Entry.unknownTypes_eq_flatMap entry, flatMap_eraseDups_eq_iff]
  refine forall_congr' fun target => forall_congr' fun hcount => ?_
  have htarget : target ∈ entry.targets := List.count_pos_iff.mp (by omega)
  rw [Entry.unknownTypes_only_eq_nil_iff htarget]
  constructor
  · intro hnone hreports
    cases hreports with
    | deferred triaged given owner =>
      rw [h] at triaged
      cases triaged
      exact hnone _ given owner
    | warned triaged _ =>
      rw [h] at triaged
      cases triaged
  · intro hnot reason hreason howner
    exact hnot (.deferred h hreason howner)

/-- Warnings stay as they are exactly if there is nothing to report of repeated
targets. -/
theorem missing_distinct_eq_iff {entry : Entry} {r : Ready}
    (h : generator.triage catalog entry = .ready r) :
    generator.missing (produced catalog (generator.readyEntries catalog entries)) r.distinct =
        generator.missing (produced catalog (generator.readyEntries catalog entries)) r ↔
      ∀ target, 2 ≤ entry.targets.count target →
        ¬generator.ReportsOn catalog entries entry target := by
  obtain ⟨rfl, -⟩ := triage_eq_ready h
  rw [missing_distinct, missing_eq_flatMap generator _ r, flatMap_eraseDups_eq_iff]
  refine forall_congr' fun target => forall_congr' fun hcount => ?_
  have htarget : target ∈ r.entry.targets := List.count_pos_iff.mp (by omega)
  rw [missing_only_eq_nil_iff htarget]
  constructor
  · intro hnone hreports
    cases hreports with
    | deferred triaged _ _ =>
      rw [h] at triaged
      cases triaged
    | warned triaged given =>
      rw [h] at triaged
      cases triaged
      exact hnone _ _ given
  · intro hnot field type hmem
    exact hnot (.warned h hmem)

/-- With targets listed once, the warnings are those of the entries with targets
listed once, and all other diagnostics are the same. -/
theorem diagnostics_runPass_distinct (generator : Generator) (catalog : Catalog) (pass : Nat)
    (entries : List Entry) :
    (generator.runPass catalog pass (entries.map (·.distinct))).1.diagnostics =
      entries.flatMap (generator.rejections catalog) ++
        (generator.readyEntries catalog entries).flatMap (fun r =>
          generator.missing (produced catalog (generator.readyEntries catalog entries))
            r.distinct) ++
        (processAll generator.options generator.synthesized
          (generator.agenda catalog entries)).2.flatMap (·.diagnostics) := by
  rw [diagnostics_runPass, agenda_distinct, processAll_distinct, readyEntries_distinct,
    List.flatMap_map, List.flatMap_map]
  simp only [rejections_distinct, missing_produced_distinct]

/-- With targets listed once, the same entries are deferred, each for the reasons
that it has with targets listed once. -/
theorem deferred_runPass_distinct (generator : Generator) (catalog : Catalog) (pass : Nat)
    (entries : List Entry) :
    (generator.runPass catalog pass (entries.map (·.distinct))).1.deferred =
      (entries.filter fun entry =>
          entry.OverridesOnce ∧ entry.unknownTypes catalog generator.synthesized ≠ []).map
        fun entry => ⟨entry.name, entry.distinct.unknownTypes catalog generator.synthesized⟩ := by
  have hcondition : ∀ entry : Entry,
      (entry.distinct.OverridesOnce ∧
          entry.distinct.unknownTypes catalog generator.synthesized ≠ []) ↔
        (entry.OverridesOnce ∧ entry.unknownTypes catalog generator.synthesized ≠ []) :=
    fun entry => and_congr_right fun _ => not_congr Entry.unknownTypes_distinct_eq_nil_iff
  rw [deferred_runPass, List.filter_map, List.map_map]
  simp only [Function.comp_def, hcondition]
  rfl

/-- Listing targets once leaves diagnostics out, but none that is not reported
otherwise. -/
theorem diagnostics_distinct_sublist (pass : Nat) :
    (generator.runPass catalog pass (entries.map (·.distinct))).1.diagnostics.Sublist
        (generator.runPass catalog pass entries).1.diagnostics ∧
      (generator.runPass catalog pass entries).1.diagnostics ⊆
        (generator.runPass catalog pass (entries.map (·.distinct))).1.diagnostics := by
  rw [diagnostics_runPass_distinct, diagnostics_runPass]
  constructor
  · refine ((List.Sublist.refl _).append ?_).append (List.Sublist.refl _)
    exact List.Sublist.flatMap_right _ fun _ _ => missing_distinct_sublist
  · intro d
    simp only [List.mem_append, List.mem_flatMap, mem_missing_distinct, imp_self]

/-- Listing targets once leaves reasons of deferrals out, but none that is not given
otherwise. -/
theorem deferred_distinct_forall₂ (pass : Nat) :
    List.Forall₂ (fun single listed : Deferral => single.entry = listed.entry ∧
        single.reasons.Sublist listed.reasons ∧ listed.reasons ⊆ single.reasons)
      (generator.runPass catalog pass (entries.map (·.distinct))).1.deferred
      (generator.runPass catalog pass entries).1.deferred := by
  rw [deferred_runPass_distinct, deferred_runPass, List.forall₂_map_left_iff,
    List.forall₂_map_right_iff, List.forall₂_same]
  exact fun entry _ => ⟨rfl, Entry.unknownTypes_distinct_sublist,
    fun _ => Entry.mem_unknownTypes_distinct.mpr⟩

/-- The diagnostics stay as they are exactly if those of each ready entry do. -/
theorem diagnostics_distinct_eq_iff (pass : Nat) :
    (generator.runPass catalog pass (entries.map (·.distinct))).1.diagnostics =
        (generator.runPass catalog pass entries).1.diagnostics ↔
      ∀ r ∈ generator.readyEntries catalog entries,
        generator.missing (produced catalog (generator.readyEntries catalog entries)) r.distinct =
          generator.missing (produced catalog (generator.readyEntries catalog entries)) r := by
  rw [diagnostics_runPass_distinct, diagnostics_runPass, List.append_cancel_right_eq,
    List.append_cancel_left_eq]
  exact flatMap_eq_iff_of_sublist fun _ _ => missing_distinct_sublist

/-- The deferrals stay as they are exactly if the reasons of each deferred entry
do. -/
theorem deferred_distinct_eq_iff (pass : Nat) :
    (generator.runPass catalog pass (entries.map (·.distinct))).1.deferred =
        (generator.runPass catalog pass entries).1.deferred ↔
      ∀ entry ∈ entries,
        entry.OverridesOnce ∧ entry.unknownTypes catalog generator.synthesized ≠ [] →
          entry.distinct.unknownTypes catalog generator.synthesized =
            entry.unknownTypes catalog generator.synthesized := by
  rw [deferred_runPass_distinct, deferred_runPass, List.map_inj_left]
  simp only [List.mem_filter, decide_eq_true_eq, Deferral.mk.injEq, true_and, and_imp]

/-- **Repeated targets.** Where entries list targets more than once, a pass makes
the same units and modules as where they list each once, in the same order, and
ends in the same state. It reports the same, and defers the same entries for the
same reasons, some of them repeated. The reports are the same altogether exactly
if there is nothing to report of the fields of repeated targets. -/
theorem runPass_distinct (generator : Generator) (catalog : Catalog) (pass : Nat)
    (entries : List Entry) :
    let once := generator.runPass catalog pass (entries.map (·.distinct))
    let asListed := generator.runPass catalog pass entries
    once.2 = asListed.2 ∧ once.1.pass = asListed.1.pass ∧ once.1.units = asListed.1.units ∧
      once.1.modules = asListed.1.modules ∧
      (once.1.diagnostics.Sublist asListed.1.diagnostics ∧
        asListed.1.diagnostics ⊆ once.1.diagnostics) ∧
      List.Forall₂ (fun single listed : Deferral => single.entry = listed.entry ∧
          single.reasons.Sublist listed.reasons ∧ listed.reasons ⊆ single.reasons)
        once.1.deferred asListed.1.deferred ∧
      (once.1 = asListed.1 ↔ ∀ entry ∈ entries, ∀ target, 2 ≤ entry.targets.count target →
        ¬generator.ReportsOn catalog entries entry target) := by
  intro once asListed
  have hprocessed : processAll generator.options generator.synthesized
      (generator.agenda catalog (entries.map (·.distinct))) =
        processAll generator.options generator.synthesized (generator.agenda catalog entries) := by
    rw [agenda_distinct, processAll_distinct]
  obtain ⟨hunits, hmodules, hafter⟩ := runPass_congr_processAll pass hprocessed
  refine ⟨hafter, rfl, hunits, hmodules, diagnostics_distinct_sublist pass,
    deferred_distinct_forall₂ pass, ?_⟩
  have hsame : once.1 = asListed.1 ↔ once.1.diagnostics = asListed.1.diagnostics ∧
      once.1.deferred = asListed.1.deferred := by
    rw [PassReport.eq_iff]
    exact ⟨fun h => h.2.2.2, fun h => ⟨rfl, hunits, hmodules, h⟩⟩
  rw [hsame]
  refine (and_congr (diagnostics_distinct_eq_iff pass) (deferred_distinct_eq_iff pass)).trans ?_
  constructor
  · rintro ⟨hwarnings, hreasons⟩ entry hentry target hcount hreports
    rcases id hreports with ⟨triaged, -, -⟩ | ⟨triaged, -⟩
    · have hdistinct := hreasons entry hentry (triage_eq_deferred_iff.mp triaged).1
      exact (unknownTypes_distinct_eq_iff triaged).mp hdistinct target hcount hreports
    · have hready := mem_readyEntries_iff.mpr ⟨entry, hentry, triaged⟩
      exact (missing_distinct_eq_iff triaged).mp (hwarnings _ hready) target hcount hreports
  · intro hnothing
    refine ⟨fun r hr => ?_, fun entry hentry hdeferred => ?_⟩
    · obtain ⟨entry, hentry, triaged⟩ := mem_readyEntries_iff.mp hr
      exact (missing_distinct_eq_iff triaged).mpr (hnothing entry hentry)
    · exact (unknownTypes_distinct_eq_iff (triage_eq_deferred_iff.mpr ⟨hdeferred, rfl⟩)).mpr
        (hnothing entry hentry)

/-! ## §6 Teams that are listed twice -/

/-- An entry that lists teams twice, and persons too. -/
def crewEntry : Entry := (teamEntry.target ⟨"Person"⟩).target ⟨"Team"⟩

/-- Where persons have units there is nothing to report of teams, and they may be
listed twice. -/
theorem report_distinct_crew :
    ((ofOptions .standard).runPass teamCatalog 1 [crewEntry.distinct]).1 =
      ((ofOptions .standard).runPass teamCatalog 1 [crewEntry]).1 := by
  obtain ⟨-, -, -, -, -, -, hsame⟩ :=
    runPass_distinct (ofOptions .standard) teamCatalog 1 [crewEntry]
  refine hsame.mpr fun entry hentry target _ hreports => ?_
  obtain rfl := List.mem_singleton.mp hentry
  have hready : (ofOptions .standard).triage teamCatalog crewEntry =
      .ready ⟨crewEntry, teamContext⟩ := rfl
  have hnone : (ofOptions .standard).missing
      (produced teamCatalog ((ofOptions .standard).readyEntries teamCatalog [crewEntry]))
      ⟨crewEntry, teamContext⟩ = [] := rfl
  cases hreports with
  | deferred triaged _ _ =>
    rw [hready] at triaged
    cases triaged
  | warned triaged given =>
    rw [hready] at triaged
    cases triaged
    rw [hnone] at given
    cases given

/-- Where persons have no unit, a report warns of them twice if teams are listed
twice, and so it is another one. -/
theorem warned_twice_team :
    ((ofOptions .standard).runPass teamCatalog 1 [teamEntry.target ⟨"Team"⟩]).1.diagnostics =
        [⟨"Teams", .missingSurrogate ⟨"Team"⟩ "lead" ⟨"Person"⟩⟩,
         ⟨"Teams", .missingSurrogate ⟨"Team"⟩ "members" ⟨"Person"⟩⟩,
         ⟨"Teams", .missingSurrogate ⟨"Team"⟩ "lead" ⟨"Person"⟩⟩,
         ⟨"Teams", .missingSurrogate ⟨"Team"⟩ "members" ⟨"Person"⟩⟩] ∧
      ((ofOptions .standard).runPass teamCatalog 1 [teamEntry.target ⟨"Team"⟩]).1 ≠
        ((ofOptions .standard).runPass teamCatalog 1 [(teamEntry.target ⟨"Team"⟩).distinct]).1 := by
  refine ⟨by decide +kernel, fun heq => ?_⟩
  exact absurd (congrArg PassReport.diagnostics heq) (by decide +kernel)

end Generator

end Surrogates
