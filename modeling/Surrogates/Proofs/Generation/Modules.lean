/-
Surrogates.Proofs.Generation.Modules — modules and diagnostics by the state in
which a pass ends.

A pass puts the module of an entry together while entries after it are still
to be processed, and in an order that the scheduler chooses. What an entry
registers can be told all the same from the targets that have units in the
end (`Entry.moduleWhere`), and so can what is reported of its targets
(`Entry.targetDiagnostics`): a target without a unit after its entry gets none
later, since every ready entry finds the same eligible fields
(`isRegistered_iff_mem`). Of the order of the entries nothing is left in the
modules: `modules_runPass`.
-/
import Mathlib.Data.List.Basic
import Surrogates.Proofs.Generation.Pass
import Surrogates.Proofs.Resolution.Overrides

namespace Surrogates

/-! ## §1 What an entry is to register and to report -/

namespace Entry

/-- The distinct targets that have units with their derived serializers, and
then the overridden types with theirs. -/
def registrations (entry : Entry) (options : Options) (synthesized : List TypeName) :
    List Registration :=
  ((entry.targets.eraseDups.filter (synthesized.contains ·)).map fun target =>
      ⟨target, (Naming.ofOptions options).serializer target⟩)
    ++ entry.classOverrides.map fun decl => ⟨decl.type, .explicit decl.serializer⟩

/-- The module of an entry where the given targets have units; none if every
registration is excluded. -/
def moduleWhere (entry : Entry) (options : Options) (synthesized : List TypeName) :
    Option SerializerModule :=
  let pairs := (entry.registrations options synthesized).filter
    (!entry.excluded.contains ·.target)
  if pairs.isEmpty then none
  else some ⟨entry.name ++ options.moduleSuffix, entry.name, pairs⟩

/-- One diagnostic for each distinct target that has no unit. -/
def targetDiagnostics (entry : Entry) (catalog : Catalog) (synthesized : List TypeName) :
    List Diagnostic :=
  (entry.targets.eraseDups.filter (!synthesized.contains ·)).map fun target =>
    ⟨entry.name,
      if catalog.declares target then .noEligibleFields target else .unresolvedType target⟩

/-- A module is named after its entry, and tells the entry's name. -/
theorem names_of_moduleWhere {entry : Entry} {options : Options} {synthesized : List TypeName}
    {spec : SerializerModule} (h : entry.moduleWhere options synthesized = some spec) :
    spec.entry = entry.name ∧ spec.name = entry.name ++ options.moduleSuffix := by
  unfold moduleWhere at h
  dsimp only at h
  split at h
  · cases h
  · cases h
    exact ⟨rfl, rfl⟩

/-- A module depends on the targets with units only as a set. -/
theorem moduleWhere_congr (entry : Entry) (options : Options) {synthesized other : List TypeName}
    (h : ∀ target, target ∈ synthesized ↔ target ∈ other) :
    entry.moduleWhere options synthesized = entry.moduleWhere options other := by
  have hcontains : synthesized.contains = other.contains := by
    funext target
    simp [List.contains_eq_mem, h]
  rw [moduleWhere, moduleWhere, registrations, registrations, hcontains]

end Entry

/-- Whether a finding is about a target that is left out. -/
def Finding.isAboutTarget : Finding → Bool
  | unresolvedType _ => true
  | noEligibleFields _ => true
  | _ => false

namespace Generator

variable {generator : Generator} {catalog : Catalog} {entries : List Entry} {pass : Nat}

/-- Whether an entry is neither rejected nor deferred. -/
def isReady (generator : Generator) (catalog : Catalog) (entry : Entry) : Bool :=
  (generator.triage catalog entry).ready?.isSome

theorem map_entry_readyEntries (generator : Generator) (catalog : Catalog)
    (entries : List Entry) :
    (generator.readyEntries catalog entries).map (·.entry) =
      entries.filter (generator.isReady catalog) := by
  have hguard : ∀ entry, ((generator.triage catalog entry).ready?.map (·.entry)) =
      Option.guard (generator.isReady catalog) entry := by
    intro entry
    cases htriage : generator.triage catalog entry with
    | rejected diagnostics => simp [Triage.ready?, isReady, htriage, Option.guard]
    | deferred deferral => simp [Triage.ready?, isReady, htriage, Option.guard]
    | ready ready =>
      simp [Triage.ready?, isReady, htriage, Option.guard, (triage_eq_ready htriage).1]
  simp only [readyEntries, List.filterMap_map, List.map_filterMap, Function.comp_def, hguard]
  exact congrFun List.filterMap_eq_filter _

/-! ## §2 One entry -/

/-- A target of a ready entry is registered exactly if it has a unit when the
pass ends. -/
theorem isRegistered_iff_mem {options : Options} {synthesized : List TypeName} {ready : Ready}
    {earlier later : List Ready}
    (hcatalog : ∀ r ∈ earlier ++ ready :: later, r.context.catalog = catalog)
    {target : TypeName} (htarget : target ∈ ready.entry.targets) :
    (outcome (processAll options synthesized earlier).1 ready.context target).isRegistered = true ↔
      target ∈ (processAll options synthesized (earlier ++ ready :: later)).1 := by
  refine ⟨mem_processAll_of_isRegistered later htarget, fun hmem => ?_⟩
  have hready : ready ∈ earlier ++ ready :: later :=
    List.mem_append_right _ List.mem_cons_self
  rw [isRegistered_outcome, mem_processAll, hcatalog ready hready]
  rcases mem_processAll.mp hmem with hbefore | ⟨r, hr, -, heligible⟩
  · exact .inl (.inl hbefore)
  · exact .inr (hcatalog r hr ▸ heligible)

variable {options : Options} {synthesized final : List TypeName} {ready : Ready}

/-- A module is that of its entry where those targets have units that are
registered. -/
theorem module?_process (hnaming : ready.context.naming = .ofOptions options)
    (hoverrides : Overrides.ofEntry ready.entry = .ok ready.context.overrides)
    (hfinal : ∀ target ∈ ready.entry.targets,
      (outcome synthesized ready.context target).isRegistered = final.contains target) :
    (process options synthesized ready).module? = ready.entry.moduleWhere options final := by
  have hmodule : (process options synthesized ready).module? =
      SerializerModule.of? (ready.entry.name ++ options.moduleSuffix) ready.entry.name
        (((outcomes synthesized ready).filter (·.2.isRegistered)).map
            (fun pair => Registration.mk pair.1 (ready.context.naming.serializer pair.1)) ++
          ready.context.overrides.types.entries.map fun pair => Registration.mk pair.1 pair.2)
        ready.entry.excluded := rfl
  have hpairs : ((outcomes synthesized ready).filter (·.2.isRegistered)).map
        (fun pair => Registration.mk pair.1 (ready.context.naming.serializer pair.1)) ++
      (ready.context.overrides.types.entries.map fun pair => Registration.mk pair.1 pair.2) =
        ready.entry.registrations options final := by
    have hfilter : ready.entry.targets.eraseDups.filter
          (fun target => (outcome synthesized ready.context target).isRegistered) =
        ready.entry.targets.eraseDups.filter (final.contains ·) :=
      List.filter_congr fun target htarget => hfinal target (List.mem_eraseDups.mp htarget)
    rw [outcomes, List.filter_map, List.map_map, Overrides.entries_types_ofEntry hoverrides,
      List.map_map, hnaming, Entry.registrations, ← hfilter]
    rfl
  rw [hmodule, hpairs]
  unfold SerializerModule.of? Entry.moduleWhere
  split
  · next hnone => rw [hnone]; rfl
  · next hsome => rw [if_neg (mt List.isEmpty_iff.mp hsome)]

/-- The diagnostics of an entry are about its targets that are not registered. -/
theorem diagnostics_process
    (hfinal : ∀ target ∈ ready.entry.targets,
      (outcome synthesized ready.context target).isRegistered = final.contains target) :
    (process options synthesized ready).diagnostics =
      ready.entry.targetDiagnostics ready.context.catalog final := by
  have hfinding : ∀ target, (outcome synthesized ready.context target).finding? target =
      if (outcome synthesized ready.context target).isRegistered then none
      else some (if ready.context.catalog.declares target then .noEligibleFields target
        else .unresolvedType target) := by
    intro target
    rcases outcome_cases synthesized ready.context target with
      ⟨-, h⟩ | ⟨-, hfind, h⟩ | ⟨-, hdeclares, -, h⟩ | ⟨-, -, unit, h⟩
    · rw [h]; rfl
    · have hdeclares : ready.context.catalog.declares target = false := by
        rw [Catalog.declares, Table.contains, ← Catalog.find?, hfind, Option.isSome_none]
      rw [h, hdeclares]; rfl
    · rw [h, hdeclares]; rfl
    · rw [h]; rfl
  unfold process outcomes Entry.targetDiagnostics
  dsimp only
  rw [List.filterMap_map, ← List.filterMap_eq_map, ← List.filterMap_eq_filter,
    List.filterMap_filterMap]
  refine List.filterMap_congr fun target htarget => ?_
  have hcontains := hfinal target (List.mem_eraseDups.mp htarget)
  simp only [Function.comp_apply, hfinding, hcontains, Option.guard, List.contains_eq_mem]
  by_cases hmem : target ∈ final <;> simp [hmem]

/-! ## §3 A pass -/

/-- The entries of a pass with what each produced, as they are processed. -/
def processings (generator : Generator) (catalog : Catalog) (entries : List Entry) :
    List (Ready × Processed) :=
  let agenda := generator.agenda catalog entries
  agenda.zip (processAll generator.options generator.synthesized agenda).2

theorem map_fst_processings (generator : Generator) (catalog : Catalog) (entries : List Entry) :
    (generator.processings catalog entries).map Prod.fst = generator.agenda catalog entries :=
  List.map_fst_zip (Nat.le_of_eq (length_processAll _ _ _).symm)

theorem map_snd_processings (generator : Generator) (catalog : Catalog) (entries : List Entry) :
    (generator.processings catalog entries).map Prod.snd =
      (processAll generator.options generator.synthesized (generator.agenda catalog entries)).2 :=
  List.map_snd_zip (Nat.le_of_eq (length_processAll _ _ _))

/-- What an entry produced is told by the state in which the pass ends. -/
theorem of_mem_processings {processed : Processed}
    (h : (ready, processed) ∈ generator.processings catalog entries) :
    processed.module? = ready.entry.moduleWhere generator.options
        (generator.runPass catalog pass entries).2.synthesized ∧
      processed.diagnostics = ready.entry.targetDiagnostics catalog
        (generator.runPass catalog pass entries).2.synthesized := by
  obtain ⟨earlier, later, hagenda, rfl⟩ := exists_processed h
  have hcatalog : ∀ r ∈ earlier ++ ready :: later, r.context.catalog = catalog :=
    fun r hr => (mem_readyEntries (mem_agenda.mp (hagenda ▸ hr))).2.1
  have hmem : ready ∈ earlier ++ ready :: later := List.mem_append_right _ List.mem_cons_self
  obtain ⟨-, -, hnaming, hoverrides⟩ := mem_readyEntries (mem_agenda.mp (hagenda ▸ hmem))
  have hfinal : ∀ target ∈ ready.entry.targets,
      (outcome (processAll generator.options generator.synthesized earlier).1 ready.context
        target).isRegistered =
      (generator.runPass catalog pass entries).2.synthesized.contains target := by
    intro target htarget
    rw [List.contains_eq_mem, Bool.eq_iff_iff, decide_eq_true_iff,
      isRegistered_iff_mem hcatalog htarget, ← hagenda]
    rfl
  refine ⟨module?_process hnaming hoverrides hfinal, ?_⟩
  rw [diagnostics_process hfinal, hcatalog ready hmem]

theorem modules_eq (generator : Generator) (catalog : Catalog) (pass : Nat)
    (entries : List Entry) :
    (generator.runPass catalog pass entries).1.modules =
      ((generator.agenda catalog entries).map (·.entry)).filterMap
        (·.moduleWhere generator.options
          (generator.runPass catalog pass entries).2.synthesized) := by
  have hmodules : (generator.runPass catalog pass entries).1.modules =
      (processAll generator.options generator.synthesized
        (generator.agenda catalog entries)).2.filterMap (·.module?) := rfl
  rw [hmodules, ← map_snd_processings, ← map_fst_processings, List.filterMap_map,
    List.filterMap_map, List.filterMap_map]
  exact List.filterMap_congr fun _ h => (of_mem_processings h).1

/-- Neither rejections nor missing surrogates are reported of targets. -/
theorem isAboutTarget_rejections {entry : Entry} {d : Diagnostic}
    (h : d ∈ generator.rejections catalog entry) : d.finding.isAboutTarget = false := by
  obtain ⟨duplicate, rfl⟩ := exists_duplicate_of_mem_rejections h
  cases duplicate <;> rfl

theorem isAboutTarget_missing {produced : List TypeName} {d : Diagnostic}
    (h : d ∈ generator.missing produced ready) : d.finding.isAboutTarget = false := by
  obtain ⟨o, -, rfl⟩ := List.mem_map.mp h
  rfl

theorem isAboutTarget_targetDiagnostics {entry : Entry} {d : Diagnostic}
    (h : d ∈ entry.targetDiagnostics catalog synthesized) : d.finding.isAboutTarget = true := by
  obtain ⟨target, -, rfl⟩ := List.mem_map.mp h
  dsimp only
  split <;> rfl

theorem diagnostics_eq (generator : Generator) (catalog : Catalog) (pass : Nat)
    (entries : List Entry) :
    (generator.runPass catalog pass entries).1.diagnostics.filter (·.finding.isAboutTarget) =
      ((generator.agenda catalog entries).map (·.entry)).flatMap
        (·.targetDiagnostics catalog (generator.runPass catalog pass entries).2.synthesized) := by
  have hprocessed : (processAll generator.options generator.synthesized
        (generator.agenda catalog entries)).2.flatMap (·.diagnostics) =
      ((generator.agenda catalog entries).map (·.entry)).flatMap
        (·.targetDiagnostics catalog
          (generator.runPass catalog pass entries).2.synthesized) := by
    rw [← map_snd_processings, ← map_fst_processings, List.flatMap_map, List.flatMap_map,
      List.flatMap_map]
    exact List.flatMap_congr fun _ h => (of_mem_processings h).2
  rw [diagnostics_runPass, hprocessed, List.filter_append, List.filter_append,
    List.filter_eq_nil_iff.mpr, List.filter_eq_nil_iff.mpr, List.filter_eq_self.mpr,
    List.nil_append, List.nil_append]
  · intro d hd
    obtain ⟨entry, -, hmem⟩ := List.mem_flatMap.mp hd
    exact isAboutTarget_targetDiagnostics hmem
  · intro d hd
    obtain ⟨ready, -, hmem⟩ := List.mem_flatMap.mp hd
    exact Bool.eq_false_iff.mp (isAboutTarget_missing hmem)
  · intro d hd
    obtain ⟨entry, -, hmem⟩ := List.mem_flatMap.mp hd
    exact Bool.eq_false_iff.mp (isAboutTarget_rejections hmem)

/-! ## §4 The order of the entries -/

theorem readyEntries_perm (generator : Generator) (catalog : Catalog) {permuted : List Entry}
    (h : entries.Perm permuted) :
    (generator.readyEntries catalog entries).Perm (generator.readyEntries catalog permuted) :=
  (h.map _).filterMap _

/-- In whatever order the entries stand, the same targets have units when the
pass ends. -/
theorem isSynthesized_perm (generator : Generator) (catalog : Catalog) (pass : Nat)
    {permuted : List Entry} (h : entries.Perm permuted) (target : TypeName) :
    (generator.runPass catalog pass entries).2.isSynthesized target =
      (generator.runPass catalog pass permuted).2.isSynthesized target := by
  have hready := readyEntries_perm generator catalog h
  rw [Bool.eq_iff_iff, isSynthesized_runPass, isSynthesized_runPass, mem_produced, mem_produced]
  simp only [hready.mem_iff]

theorem map_entry_agenda_perm (generator : Generator) (catalog : Catalog)
    (entries : List Entry) :
    ((generator.agenda catalog entries).map (·.entry)).Perm
      (entries.filter (generator.isReady catalog)) := by
  rw [← map_entry_readyEntries]
  exact (agenda_perm generator catalog entries).map _

theorem mem_map_entry_agenda {entry : Entry} :
    entry ∈ (generator.agenda catalog entries).map (·.entry) ↔
      entry ∈ entries ∧ generator.isReady catalog entry = true :=
  (map_entry_agenda_perm generator catalog entries).mem_iff.trans List.mem_filter

/-- Each entry that is ready has, in some order of the entries, the module and
the diagnostics of its targets that the state in the end gives it. Permuting
the entries changes neither the targets with units nor any module. -/
theorem modules_runPass (generator : Generator) (catalog : Catalog) (pass : Nat)
    (entries : List Entry) :
    let report := (generator.runPass catalog pass entries).1
    let after := (generator.runPass catalog pass entries).2
    (∃ order : List Entry, order.Perm (entries.filter (generator.isReady catalog)) ∧
      report.modules = order.filterMap (·.moduleWhere generator.options after.synthesized) ∧
      report.diagnostics.filter (·.finding.isAboutTarget) =
        order.flatMap (·.targetDiagnostics catalog after.synthesized)) ∧
    (∀ target, (Finding.unresolvedType target).severity = .error ∧
      (Finding.noEligibleFields target).severity = .warning) ∧
    ∀ permuted : List Entry, entries.Perm permuted →
      (∀ target, after.isSynthesized target =
        (generator.runPass catalog pass permuted).2.isSynthesized target) ∧
      (∀ entry : Entry, entry.moduleWhere generator.options after.synthesized =
        entry.moduleWhere generator.options
          (generator.runPass catalog pass permuted).2.synthesized) ∧
      report.modules.Perm (generator.runPass catalog pass permuted).1.modules := by
  intro report after
  refine ⟨⟨(generator.agenda catalog entries).map (·.entry),
    map_entry_agenda_perm generator catalog entries,
    modules_eq generator catalog pass entries,
    diagnostics_eq generator catalog pass entries⟩, fun _ => ⟨rfl, rfl⟩, ?_⟩
  intro permuted hperm
  have hsame := isSynthesized_perm generator catalog pass hperm
  have hmodules : ∀ entry : Entry, entry.moduleWhere generator.options after.synthesized =
      entry.moduleWhere generator.options
        (generator.runPass catalog pass permuted).2.synthesized := by
    intro entry
    refine entry.moduleWhere_congr generator.options fun target => ?_
    rw [← isSynthesized_iff, ← isSynthesized_iff, hsame target]
  refine ⟨hsame, hmodules, ?_⟩
  have hagenda : ((generator.agenda catalog entries).map (·.entry)).Perm
      ((generator.agenda catalog permuted).map (·.entry)) :=
    (map_entry_agenda_perm generator catalog entries).trans
      ((hperm.filter _).trans (map_entry_agenda_perm generator catalog permuted).symm)
  show (generator.runPass catalog pass entries).1.modules.Perm _
  rw [modules_eq, modules_eq, funext hmodules]
  exact hagenda.filterMap _

/-! ## §5 Orders before or after their lines -/

/-- An order has lines, and a vault has nothing to see. -/
def orderCatalog : Catalog := .ofList
  [⟨⟨"Order"⟩, false, [⟨"lines", .node ⟨"Vec"⟩ [.node ⟨"Line"⟩ [] false] false, .exported⟩]⟩,
   ⟨⟨"Line"⟩, false, [⟨"count", .node ⟨"u32"⟩ [] false, .exported⟩]⟩,
   ⟨⟨"Vault"⟩, false, [⟨"key", .node ⟨"String"⟩ [] false, .hidden⟩]⟩]

/-- An entry that lists orders twice and a type that is not declared. -/
def orderEntry : Entry :=
  ((((Entry.named "Orders").target ⟨"Order"⟩).target ⟨"Ghost"⟩).target ⟨"Order"⟩).overrideClass
    ⟨"u32"⟩ ⟨"Padded"⟩

/-- An entry that lists orders too, but has them left out of its module. -/
def lineEntry : Entry :=
  ((((Entry.named "Lines").target ⟨"Vault"⟩).target ⟨"Line"⟩).target ⟨"Order"⟩).exclude ⟨"Order"⟩

/-- An entry that overrides integers twice, and is rejected. -/
def twiceEntry : Entry :=
  (((Entry.named "Twice").target ⟨"Line"⟩).overrideClass ⟨"u32"⟩ ⟨"Padded"⟩).overrideClass
    ⟨"u32"⟩ ⟨"Signed"⟩

theorem modules_orders :
    ((ofOptions .standard).runPass orderCatalog 1 [orderEntry, lineEntry]).1.modules =
      [⟨"LinesModule", "Lines", [⟨⟨"Line"⟩, .derived ⟨"LineSerializer"⟩⟩]⟩,
       ⟨"OrdersModule", "Orders",
          [⟨⟨"Order"⟩, .derived ⟨"OrderSerializer"⟩⟩, ⟨⟨"u32"⟩, .explicit ⟨"Padded"⟩⟩]⟩] :=
  rfl

/-- The entries of orders and of lines may stand in either order. -/
theorem modules_orders_perm :
    [orderEntry, lineEntry].Perm [lineEntry, orderEntry] ∧
      ((ofOptions .standard).runPass orderCatalog 1 [lineEntry, orderEntry]).2.isSynthesized
        ⟨"Order"⟩ = true ∧
      [⟨"LinesModule", "Lines", [⟨⟨"Line"⟩, .derived ⟨"LineSerializer"⟩⟩]⟩,
       ⟨"OrdersModule", "Orders",
          [⟨⟨"Order"⟩, .derived ⟨"OrderSerializer"⟩⟩, ⟨⟨"u32"⟩, .explicit ⟨"Padded"⟩⟩]⟩].Perm
        ((ofOptions .standard).runPass orderCatalog 1 [lineEntry, orderEntry]).1.modules := by
  have hperm : [orderEntry, lineEntry].Perm [lineEntry, orderEntry] := List.Perm.swap ..
  obtain ⟨-, -, hpermuted⟩ :=
    modules_runPass (ofOptions .standard) orderCatalog 1 [orderEntry, lineEntry]
  obtain ⟨hsame, -, hmodules⟩ := hpermuted [lineEntry, orderEntry] hperm
  refine ⟨hperm, (hsame ⟨"Order"⟩).symm.trans rfl, ?_⟩
  rw [← modules_orders]
  exact hmodules

end Generator

end Surrogates
