/-
Surrogates.Proofs.Generation.Processing — which units the ready entries get.

An entry gets units of its distinct targets that have none and that have
eligible fields, in order: `targets_process`. Entries one after another only
add targets to those with units, exactly those of the new units
(`synthesized_processAll`), and none twice (`nodup_processAll`). In the end a
target has a unit if it had one before, or if an entry lists it and it has
eligible fields: `mem_processAll`. `exists_processed` finds the state in
which an entry was processed.
-/
import Surrogates.Generation.Pass
import Surrogates.Proofs.Distinct
import Surrogates.Proofs.Unit.Synthesis

namespace Surrogates

/-- Whether a target of a ready entry gets a unit where those have one that
are synthesized. -/
def Ready.makes (ready : Ready) (synthesized : List TypeName) (target : TypeName) : Bool :=
  !synthesized.contains target && !(ready.context.catalog.eligible target).isEmpty

theorem Ready.makes_iff {ready : Ready} {synthesized : List TypeName} {target : TypeName} :
    ready.makes synthesized target = true ↔
      target ∉ synthesized ∧ ready.context.catalog.eligible target ≠ [] := by
  simp [makes]

namespace Generator

variable {options : Options} {synthesized : List TypeName}

/-! ## §1 One target -/

/-- A unit is made of a declared target that has none. -/
theorem unit?_outcome_eq_some_iff {ctx : Context} {target : TypeName} {unit : SurrogateUnit} :
    (outcome synthesized ctx target).unit? = some unit ↔
      target ∉ synthesized ∧ ∃ decl, ctx.catalog.find? target = some decl ∧
        ctx.synthesize? target decl.fields = some unit := by
  unfold outcome
  rw [List.contains_eq_mem]
  by_cases hmem : target ∈ synthesized
  · simp [hmem, Outcome.unit?]
  · simp only [hmem, decide_false, Bool.false_eq_true, if_false, not_false_eq_true, true_and]
    cases hfind : ctx.catalog.find? target with
    | none => simp [Outcome.unit?]
    | some decl =>
      cases hunit : ctx.synthesize? target decl.fields <;> simp [Outcome.unit?, hunit]

/-- A target gets a unit exactly if it has none and has eligible fields. -/
theorem isSome_unit?_outcome (synthesized : List TypeName) (ready : Ready) (target : TypeName) :
    (outcome synthesized ready.context target).unit?.isSome = ready.makes synthesized target := by
  unfold outcome Ready.makes Catalog.eligible
  cases synthesized.contains target with
  | true => rfl
  | false =>
    cases ready.context.catalog.find? target with
    | none => rfl
    | some decl =>
      have hsome := Context.isSome_synthesize? ready.context target decl.fields
      cases hunit : ready.context.synthesize? target decl.fields with
      | none => simpa [Outcome.unit?, TypeDecl.eligible, hunit] using hsome
      | some unit => simpa [Outcome.unit?, TypeDecl.eligible, hunit] using hsome

/-- What becomes of a target, by what is known of it. -/
theorem outcome_cases (synthesized : List TypeName) (ctx : Context) (target : TypeName) :
    target ∈ synthesized ∧ outcome synthesized ctx target = .known ∨
      target ∉ synthesized ∧ ctx.catalog.find? target = none ∧
        outcome synthesized ctx target = .undeclared ∨
      target ∉ synthesized ∧ ctx.catalog.declares target = true ∧
        ctx.catalog.eligible target = [] ∧ outcome synthesized ctx target = .ineligible ∨
      target ∉ synthesized ∧ ctx.catalog.eligible target ≠ [] ∧
        ∃ unit, outcome synthesized ctx target = .made unit := by
  unfold outcome Catalog.declares Catalog.eligible Table.contains
  rw [List.contains_eq_mem]
  by_cases hmem : target ∈ synthesized
  · simp [hmem]
  · cases hfind : ctx.catalog.find? target with
    | none => simp [hmem]
    | some decl =>
      have hget : ctx.catalog.types.get? target = some decl := hfind
      have hsome := Context.isSome_synthesize? ctx target decl.fields
      cases hunit : ctx.synthesize? target decl.fields with
      | none => simpa [hmem, hget, TypeDecl.eligible, hunit] using hsome
      | some unit => simpa [hmem, TypeDecl.eligible, hunit] using hsome

/-- A target is registered if it has a unit or eligible fields. -/
theorem isRegistered_outcome {ctx : Context} {target : TypeName} :
    (outcome synthesized ctx target).isRegistered = true ↔
      target ∈ synthesized ∨ ctx.catalog.eligible target ≠ [] := by
  rcases outcome_cases synthesized ctx target with
    ⟨hmem, h⟩ | ⟨hmem, hfind, h⟩ | ⟨hmem, -, hnone, h⟩ | ⟨hmem, hsome, unit, h⟩
  · simp [h, Outcome.isRegistered, hmem]
  · simp [h, Outcome.isRegistered, hmem, Catalog.eligible, hfind]
  · simp [h, Outcome.isRegistered, hmem, hnone]
  · simp [h, Outcome.isRegistered, hsome]

/-! ## §2 One entry -/

theorem mem_units_process {ready : Ready} {unit : SurrogateUnit} :
    unit ∈ (process options synthesized ready).units ↔
      ∃ target ∈ ready.entry.targets,
        (outcome synthesized ready.context target).unit? = some unit := by
  simp [process, outcomes, List.mem_filterMap]

/-- An entry gets units of its distinct targets that have none and that have
eligible fields. -/
theorem targets_process (options : Options) (synthesized : List TypeName) (ready : Ready) :
    (process options synthesized ready).units.map (·.target) =
      ready.entry.targets.eraseDups.filter (ready.makes synthesized) := by
  have hguard : ∀ target, ((outcome synthesized ready.context target).unit?.map (·.target)) =
      Option.guard (ready.makes synthesized) target := by
    intro target
    have hsome := isSome_unit?_outcome synthesized ready target
    cases hunit : (outcome synthesized ready.context target).unit? with
    | none =>
      rw [hunit, Option.isSome_none] at hsome
      simp [Option.guard, ← hsome]
    | some unit =>
      obtain ⟨-, decl, -, hmade⟩ := unit?_outcome_eq_some_iff.mp hunit
      rw [hunit, Option.isSome_some] at hsome
      simp [Option.guard, ← hsome, (Context.synthesize?_eq_some hmade).1]
  simp only [process, outcomes, List.filterMap_map, List.map_filterMap, Function.comp_def, hguard]
  exact congrFun List.filterMap_eq_filter _

/-- Processing an entry reports of its targets that were left out, under the
name of the entry. -/
theorem mem_diagnostics_process {ready : Ready} {d : Diagnostic}
    (h : d ∈ (process options synthesized ready).diagnostics) :
    ∃ target ∈ ready.entry.targets, d = ⟨ready.entry.name, .unresolvedType target⟩ ∨
      d = ⟨ready.entry.name, .noEligibleFields target⟩ := by
  obtain ⟨⟨target, outcome⟩, houtcome, hreported⟩ := List.mem_filterMap.mp h
  obtain ⟨finding, hfinding, rfl⟩ := Option.map_eq_some_iff.mp hreported
  have htarget : target ∈ ready.entry.targets := by
    obtain ⟨_, hlisted, heq⟩ := List.mem_map.mp houtcome
    cases heq
    exact List.mem_eraseDups.mp hlisted
  refine ⟨target, htarget, ?_⟩
  cases outcome <;> cases hfinding
  · exact .inl rfl
  · exact .inr rfl

/-! ## §3 Entries one after another -/

theorem processAll_cons (options : Options) (synthesized : List TypeName) (ready : Ready)
    (rest : List Ready) :
    processAll options synthesized (ready :: rest) =
      ((processAll options
          (synthesized ++ (process options synthesized ready).units.map (·.target)) rest).1,
        process options synthesized ready ::
          (processAll options
            (synthesized ++ (process options synthesized ready).units.map (·.target)) rest).2) :=
  rfl

/-- The targets with units are those from before and those of the new units. -/
theorem synthesized_processAll (options : Options) (synthesized : List TypeName)
    (ready : List Ready) :
    (processAll options synthesized ready).1 = synthesized ++
      ((processAll options synthesized ready).2.flatMap (·.units)).map (·.target) := by
  induction ready generalizing synthesized with
  | nil => simp [processAll]
  | cons first rest ih =>
    rw [processAll_cons]
    dsimp only
    rw [ih]
    simp only [List.flatMap_cons, List.map_append, List.append_assoc]

/-- No target has two units. -/
theorem nodup_processAll {ready : List Ready} (h : synthesized.Nodup) :
    (processAll options synthesized ready).1.Nodup := by
  induction ready generalizing synthesized with
  | nil => exact h
  | cons first rest ih =>
    rw [processAll_cons]
    refine ih ?_
    rw [targets_process]
    refine List.nodup_append.mpr ⟨h, (nodup_eraseDups _).filter _, ?_⟩
    intro old hold new hnew heq
    exact (Ready.makes_iff.mp (List.mem_filter.mp hnew).2).1 (heq ▸ hold)

/-- A target has a unit in the end if it had one, or if an entry lists it and
it has eligible fields. -/
theorem mem_processAll {ready : List Ready} {target : TypeName} :
    target ∈ (processAll options synthesized ready).1 ↔
      target ∈ synthesized ∨
        ∃ r ∈ ready, target ∈ r.entry.targets ∧ r.context.catalog.eligible target ≠ [] := by
  induction ready generalizing synthesized with
  | nil => simp [processAll]
  | cons first rest ih =>
    rw [processAll_cons]
    dsimp only
    rw [ih, targets_process, List.mem_append, List.mem_filter, List.mem_eraseDups,
      Ready.makes_iff]
    simp only [List.mem_cons, or_and_right, exists_or, exists_eq_left]
    by_cases hmem : target ∈ synthesized <;> simp [hmem]

/-- A registered target has a unit in the end. -/
theorem mem_processAll_of_isRegistered {earlier : List Ready} (later : List Ready) {ready : Ready}
    {target : TypeName} (htarget : target ∈ ready.entry.targets)
    (h : (outcome (processAll options synthesized earlier).1 ready.context target).isRegistered
      = true) :
    target ∈ (processAll options synthesized (earlier ++ ready :: later)).1 := by
  rw [isRegistered_outcome, mem_processAll] at h
  rw [mem_processAll]
  rcases h with (hbefore | ⟨r, hr, hlisted, heligible⟩) | heligible
  · exact .inl hbefore
  · exact .inr ⟨r, List.mem_append_left _ hr, hlisted, heligible⟩
  · exact .inr ⟨ready, List.mem_append_right _ List.mem_cons_self, htarget, heligible⟩

theorem length_processAll (options : Options) (synthesized : List TypeName)
    (ready : List Ready) : (processAll options synthesized ready).2.length = ready.length := by
  induction ready generalizing synthesized with
  | nil => rfl
  | cons first rest ih =>
    rw [processAll_cons, List.length_cons, List.length_cons, ih]

/-- What an entry produced was produced where the entries before it had been
processed. -/
theorem exists_processed {ready : List Ready} {r : Ready} {processed : Processed}
    (h : (r, processed) ∈ ready.zip (processAll options synthesized ready).2) :
    ∃ earlier later, ready = earlier ++ r :: later ∧
      processed = process options (processAll options synthesized earlier).1 r := by
  induction ready generalizing synthesized with
  | nil => simp [processAll] at h
  | cons first rest ih =>
    rw [processAll_cons, List.zip_cons_cons, List.mem_cons] at h
    rcases h with heq | h
    · cases heq
      exact ⟨[], rest, rfl, rfl⟩
    · obtain ⟨earlier, later, hready, hprocessed⟩ := ih h
      refine ⟨first :: earlier, later, by rw [hready]; rfl, ?_⟩
      rw [processAll_cons]
      exact hprocessed

/-- Whatever was produced was produced for a ready entry. -/
theorem exists_split_of_mem {ready : List Ready} {processed : Processed}
    (h : processed ∈ (processAll options synthesized ready).2) :
    ∃ r earlier later, ready = earlier ++ r :: later ∧
      processed = process options (processAll options synthesized earlier).1 r := by
  have hlength := length_processAll options synthesized ready
  rw [← List.map_snd_zip (Nat.le_of_eq hlength)] at h
  obtain ⟨⟨r, found⟩, hzip, rfl⟩ := List.mem_map.mp h
  exact ⟨r, exists_processed hzip⟩

end Generator

end Surrogates
