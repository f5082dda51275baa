/-
Surrogates.Proofs.Generation.Passes — passes of one generator, one after
another.

Catalogs and entries may differ from pass to pass. Each report is that of one
pass, run in some state on the way; what had a unit after that pass has one
in the end (`exists_pass_of_mem`). The targets with units are those from
before and those of the units reported (`synthesized_runPasses`), and none
has two (`nodup_runPasses`).
-/
import Surrogates.Proofs.Generation.Pass

namespace Surrogates

/-- What one pass is asked for. -/
structure PassRequest where
  catalog : Catalog
  number : Nat
  entries : List Entry

/-- The generation that gathers reports in order. -/
def Generation.ofReports (reports : List PassReport) : Generation :=
  reports.foldl absorb empty

namespace Generator

/-- The reports of passes one after another, and the generator afterwards. -/
def runPasses (generator : Generator) : List PassRequest → List PassReport × Generator
  | [] => ([], generator)
  | request :: rest =>
    let (report, after) := generator.runPass request.catalog request.number request.entries
    let (reports, last) := after.runPasses rest
    (report :: reports, last)

/-! ## §1 Targets with units -/

theorem runPasses_cons (generator : Generator) (request : PassRequest)
    (rest : List PassRequest) :
    generator.runPasses (request :: rest) =
      ((generator.runPass request.catalog request.number request.entries).1 ::
          ((generator.runPass request.catalog request.number request.entries).2.runPasses rest).1,
        ((generator.runPass request.catalog request.number request.entries).2.runPasses rest).2) :=
  rfl

/-- Passes add the targets of their units to those with units. -/
theorem synthesized_runPasses (generator : Generator) (requests : List PassRequest) :
    (generator.runPasses requests).2.synthesized = generator.synthesized ++
      ((generator.runPasses requests).1.flatMap (·.units)).map (·.target) := by
  induction requests generalizing generator with
  | nil => simp [runPasses]
  | cons request rest ih =>
    rw [runPasses_cons]
    dsimp only
    rw [ih, synthesized_runPass, List.flatMap_cons, List.map_append, List.append_assoc]

/-- No target has two units. -/
theorem nodup_runPasses {generator : Generator} (h : generator.synthesized.Nodup)
    (requests : List PassRequest) : (generator.runPasses requests).2.synthesized.Nodup := by
  induction requests generalizing generator with
  | nil => exact h
  | cons request rest ih =>
    exact ih (nodup_runPass h request.catalog request.number request.entries)

theorem options_runPasses (generator : Generator) (requests : List PassRequest) :
    (generator.runPasses requests).2.options = generator.options := by
  induction requests generalizing generator with
  | nil => rfl
  | cons request rest ih =>
    rw [runPasses_cons]
    exact ih _

/-! ## §2 Single passes -/

/-- A report is that of one pass, whose targets with units still have them in
the end. -/
theorem exists_pass_of_mem {generator : Generator} {requests : List PassRequest}
    {report : PassReport} (h : report ∈ (generator.runPasses requests).1) :
    ∃ before : Generator, before.options = generator.options ∧ ∃ request ∈ requests,
      report = (before.runPass request.catalog request.number request.entries).1 ∧
      (before.runPass request.catalog request.number request.entries).2.synthesized ⊆
        (generator.runPasses requests).2.synthesized := by
  induction requests generalizing generator with
  | nil => cases h
  | cons request rest ih =>
    rw [runPasses_cons] at h ⊢
    rcases List.mem_cons.mp h with rfl | h
    · refine ⟨generator, rfl, request, List.mem_cons_self, rfl, ?_⟩
      rw [synthesized_runPasses]
      exact List.subset_append_left _ _
    · obtain ⟨before, hoptions, later, hlater, hreport, hsubset⟩ := ih h
      exact ⟨before, hoptions, later, List.mem_cons_of_mem _ hlater, hreport, hsubset⟩

/-- The serializer of a unit has the name that is derived for its target. -/
theorem serializerName_of_mem_runPasses {generator : Generator} {requests : List PassRequest}
    {report : PassReport} (hreport : report ∈ (generator.runPasses requests).1)
    {unit : SurrogateUnit} (hunit : unit ∈ report.units) :
    unit.serializer.name = ((Naming.ofOptions generator.options).serializer unit.target).name := by
  obtain ⟨before, hoptions, request, -, rfl, -⟩ := exists_pass_of_mem hreport
  rw [← hoptions]
  exact serializerName_of_mem_units hunit

/-- The surrogate of a unit has the name that is derived for its target. -/
theorem surrogateName_of_mem_runPasses {generator : Generator} {requests : List PassRequest}
    {report : PassReport} (hreport : report ∈ (generator.runPasses requests).1)
    {unit : SurrogateUnit} (hunit : unit ∈ report.units) :
    unit.surrogate.name = (Naming.ofOptions generator.options).surrogate unit.target := by
  obtain ⟨before, hoptions, request, -, rfl, -⟩ := exists_pass_of_mem hreport
  rw [← hoptions]
  exact surrogateName_of_mem_units hunit

theorem synthesized_of_mem_runPasses {generator : Generator} {requests : List PassRequest}
    (hcatalogs : ∀ request ∈ requests, ∀ name decl, request.catalog.find? name = some decl →
      (decl.fields.map (·.name)).Nodup)
    {report : PassReport} (hreport : report ∈ (generator.runPasses requests).1)
    {unit : SurrogateUnit} (hunit : unit ∈ report.units) : unit.Synthesized := by
  obtain ⟨before, -, request, hrequest, rfl, -⟩ := exists_pass_of_mem hreport
  exact synthesized_of_mem_units (hcatalogs request hrequest) hunit

end Generator

/-! ## §3 The generation of the reports -/

namespace Generation

theorem units_foldl_absorb (generation : Generation) (reports : List PassReport) :
    (reports.foldl absorb generation).units = generation.units ++ reports.flatMap (·.units) := by
  induction reports generalizing generation with
  | nil => simp
  | cons report rest ih =>
    rw [List.foldl_cons, ih, List.flatMap_cons, ← List.append_assoc]
    rfl

theorem modules_foldl_absorb (generation : Generation) (reports : List PassReport) :
    (reports.foldl absorb generation).modules =
      generation.modules ++ reports.flatMap (·.modules) := by
  induction reports generalizing generation with
  | nil => simp
  | cons report rest ih =>
    rw [List.foldl_cons, ih, List.flatMap_cons, ← List.append_assoc]
    rfl

theorem diagnostics_foldl_absorb (generation : Generation) (reports : List PassReport) :
    (reports.foldl absorb generation).diagnostics =
      generation.diagnostics ++ reports.flatMap (·.diagnostics) := by
  induction reports generalizing generation with
  | nil => simp
  | cons report rest ih =>
    rw [List.foldl_cons, ih, List.flatMap_cons, ← List.append_assoc]
    rfl

/-- A generation gathers one report more by absorbing it. -/
theorem ofReports_append_singleton (reports : List PassReport) (report : PassReport) :
    ofReports (reports ++ [report]) = (ofReports reports).absorb report := by
  rw [ofReports, List.foldl_append]
  rfl

theorem mem_units_ofReports {reports : List PassReport} {unit : SurrogateUnit} :
    unit ∈ (ofReports reports).units ↔ ∃ report ∈ reports, unit ∈ report.units := by
  rw [ofReports, units_foldl_absorb, empty, List.nil_append, List.mem_flatMap]

theorem mem_modules_ofReports {reports : List PassReport} {spec : SerializerModule} :
    spec ∈ (ofReports reports).modules ↔ ∃ report ∈ reports, spec ∈ report.modules := by
  rw [ofReports, modules_foldl_absorb, empty, List.nil_append, List.mem_flatMap]

end Generation

end Surrogates
