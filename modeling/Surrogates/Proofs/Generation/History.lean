/-
Surrogates.Proofs.Generation.History — what one generator does over many calls.

A generator is called any number of times, for a run or for a single pass,
with catalogs and entries that may differ from call to call. Either call runs
one pass, so calls one after another report the units of passes one after
another (`performAll_eq`). From a fresh generator on, the targets with units
are exactly those of the units reported, each of one unit: `units_performAll`.
-/
import Surrogates.Proofs.Generation.Passes

namespace Surrogates

/-- A call of a generator. -/
inductive Call where
  | run (catalog : Catalog) (entries : List Entry)
  | pass (catalog : Catalog) (number : Nat) (entries : List Entry)

/-- The pass that a call runs. -/
def Call.request : Call → PassRequest
  | .run catalog entries => ⟨catalog, 1, entries⟩
  | .pass catalog number entries => ⟨catalog, number, entries⟩

namespace Generator

/-- The units that a call reports, and the generator afterwards. -/
def perform (generator : Generator) : Call → List SurrogateUnit × Generator
  | .run catalog entries =>
    let (generation, after) := generator.run catalog entries
    (generation.units, after)
  | .pass catalog number entries =>
    let (report, after) := generator.runPass catalog number entries
    (report.units, after)

/-- The units that calls report one after another, and the generator afterwards. -/
def performAll (generator : Generator) : List Call → List SurrogateUnit × Generator
  | [] => ([], generator)
  | call :: rest =>
    let (units, after) := generator.perform call
    let (more, last) := after.performAll rest
    (units ++ more, last)

/-! ## §1 Calls as passes -/

/-- A run gathers one report and keeps its units. -/
theorem perform_eq (generator : Generator) (call : Call) :
    generator.perform call =
      ((generator.runPass call.request.catalog call.request.number call.request.entries).1.units,
        (generator.runPass call.request.catalog call.request.number call.request.entries).2) := by
  cases call with
  | run catalog entries => rfl
  | pass catalog number entries => rfl

theorem performAll_cons (generator : Generator) (call : Call) (rest : List Call) :
    generator.performAll (call :: rest) =
      ((generator.perform call).1 ++ ((generator.perform call).2.performAll rest).1,
        ((generator.perform call).2.performAll rest).2) :=
  rfl

theorem performAll_eq (generator : Generator) (calls : List Call) :
    generator.performAll calls =
      ((generator.runPasses (calls.map (·.request))).1.flatMap (·.units),
        (generator.runPasses (calls.map (·.request))).2) := by
  induction calls generalizing generator with
  | nil => rfl
  | cons call rest ih =>
    rw [performAll_cons, ih, perform_eq, List.map_cons, runPasses_cons, List.flatMap_cons]

/-! ## §2 Units -/

/-- Whatever the calls, the units they report have distinct targets, a target
is synthesized exactly if one of them is of it, and no further call removes a
synthesized target. -/
theorem units_performAll (options : Options) (calls : List Call) :
    let (units, generator) := (ofOptions options).performAll calls
    (units.map (·.target)).Nodup ∧
      (∀ target, generator.isSynthesized target = true ↔ ∃ unit ∈ units, unit.target = target) ∧
      ∀ call, generator.synthesized ⊆ (generator.perform call).2.synthesized := by
  rw [performAll_eq]
  have hnodup : ((ofOptions options).runPasses (calls.map (·.request))).2.synthesized.Nodup :=
    nodup_runPasses List.nodup_nil _
  have htargets := synthesized_runPasses (ofOptions options) (calls.map (·.request))
  rw [ofOptions, List.nil_append] at htargets
  refine ⟨htargets ▸ hnodup, fun target => ?_, fun call => ?_⟩
  · rw [isSynthesized_iff, ofOptions, htargets, List.mem_map]
  · rw [perform_eq, synthesized_runPass]
    exact List.subset_append_left _ _

end Generator

end Surrogates
