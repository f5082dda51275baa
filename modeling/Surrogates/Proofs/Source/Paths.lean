/-
Surrogates.Proofs.Source.Paths — the paths of the files of a generation.

A unit's file has the snake case of the target's simple name with the suffix of
surrogates, and a module's that of the entry's name with the suffix of modules
(`map_path_files`). What qualifies a target is not in the path, so files can have
one path, and then the last of them is what is left after writing. Units are kept
exactly if no other unit and no module has their name, and modules if those of
one name have one text: `holds_units_iff`, `holds_modules_iff`.
-/
import Surrogates.Proofs.Configuration.Checked
import Surrogates.Proofs.Files.Writing
import Surrogates.Proofs.Generation.Modules
import Surrogates.Proofs.Generation.Provenance
import Surrogates.Proofs.Source.Imports
import Surrogates.Proofs.Text.SnakeCase
import Surrogates.Proofs.TypeName.Suffixed

namespace Surrogates

/-! ## §1 Paths -/

/-- The name of a unit's file. -/
def SurrogateUnit.stem (options : Options) (unit : SurrogateUnit) : String :=
  Text.snakeCase (unit.target.simple ++ options.surrogateSuffix)

/-- The name of a module's file. -/
def SerializerModule.stem (options : Options) (spec : SerializerModule) : String :=
  Text.snakeCase (spec.entry ++ options.moduleSuffix)

/-- The names of the files of a generation. -/
def Generation.stems (options : Options) (generation : Generation) : List String :=
  generation.units.map (·.stem options) ++ generation.modules.map (·.stem options)

/-- A word in snake case with an ending is a file name. -/
theorem Files.isName_snakeCase {name : String} (h : isIdentifier name = true) :
    Files.IsName (Text.snakeCase name ++ ".rs") := by
  have hlength : 3 ≤ (Text.snakeCase name ++ ".rs").length := by
    rw [String.length_append]
    exact Nat.le_add_left 3 _
  refine ⟨fun hslash => ?_, ?_, ?_, ?_⟩
  · rw [String.toList_append, List.mem_append] at hslash
    rcases hslash with hslash | hslash
    · exact absurd (Text.isPlain_of_mem_snakeCase h '/' hslash) (by decide)
    · exact absurd hslash (by decide)
  all_goals
    intro heq
    rw [heq] at hlength
    exact absurd hlength (by decide)

namespace Source

variable {configuration : Configuration} {catalog : Catalog} {synthesized : List TypeName}

/-- What a pass of a checked configuration generates: units for its targets, and
modules for its entries. -/
structure Generates (configuration : Configuration) (generation : Generation) : Prop where
  surrogate : ∀ unit ∈ generation.units, unit.surrogate.name =
    (Naming.ofOptions configuration.options).surrogate unit.target
  target : ∀ unit ∈ generation.units, ∃ entry ∈ configuration.entries, unit.target ∈ entry.targets
  unique : ∀ unit ∈ generation.units, ∀ other ∈ generation.units,
    unit.target = other.target → unit = other
  module : ∀ spec ∈ generation.modules, ∃ entry ∈ configuration.entries, spec.entry = entry.name ∧
    spec.name = entry.name ++ configuration.options.moduleSuffix

theorem units_run (generator : Generator) (catalog : Catalog) (entries : List Entry) :
    (generator.run catalog entries).1.units = (generator.runPass catalog 1 entries).1.units :=
  rfl

theorem modules_run (generator : Generator) (catalog : Catalog) (entries : List Entry) :
    (generator.run catalog entries).1.modules = (generator.runPass catalog 1 entries).1.modules :=
  rfl

/-- A run generates what its configuration asks for. -/
theorem generates_run (configuration : Configuration) (catalog : Catalog)
    (synthesized : List TypeName) : Generates configuration
      ((⟨configuration.options, synthesized⟩ : Generator).run catalog configuration.entries).1 where
  surrogate := by
    rw [units_run]
    intro unit hunit
    have hname := Generator.surrogateName_of_mem_units hunit
    exact hname
  target := by
    rw [units_run]
    intro unit hunit
    obtain ⟨entry, hemission⟩ := Generator.exists_emission hunit
    obtain ⟨ready, hready, rfl, htarget, -⟩ := Generator.of_mem_emissions hemission
    exact ⟨ready.entry, (Generator.mem_readyEntries hready).1, htarget⟩
  unique := by
    rw [units_run]
    intro unit hunit other hother heq
    obtain ⟨-, place, ready, decl, hmaker, hdecl, hmade⟩ :=
      Generator.mem_units_runPass_iff.mp hunit
    obtain ⟨-, place', ready', decl', hmaker', hdecl', hmade'⟩ :=
      Generator.mem_units_runPass_iff.mp hother
    rw [heq] at hmaker hdecl hmade
    cases hmaker.symm.trans hmaker'
    cases hdecl.symm.trans hdecl'
    exact Option.some.inj (hmade.symm.trans hmade')
  module := by
    rw [modules_run, Generator.modules_eq]
    intro spec hspec
    obtain ⟨entry, hentry, hspec⟩ := List.mem_filterMap.mp hspec
    obtain ⟨ready, hready, rfl⟩ := List.mem_map.mp hentry
    refine ⟨ready.entry, (Generator.mem_readyEntries (Generator.mem_agenda.mp hready)).1, ?_⟩
    exact Entry.names_of_moduleWhere hspec

/-! ## §2 The files of a generation -/

variable {generation : Generation}

/-- A unit's file is named after its target. -/
theorem path_ofUnit (hchecked : configuration.Checked)
    (hgenerates : Generates configuration generation) {unit : SurrogateUnit}
    (hunit : unit ∈ generation.units) :
    (File.ofUnit unit).path = unit.stem configuration.options ++ ".rs" := by
  have hsimple : unit.surrogate.name.simple =
      unit.target.simple ++ configuration.options.surrogateSuffix := by
    rw [hgenerates.surrogate unit hunit]
    exact TypeName.simple_withSuffix _ (colon_notMem_of_isIdentifier hchecked.surrogateSuffix)
  simp only [File.ofUnit, UnitFile.path, UnitFile.of, hsimple, SurrogateUnit.stem]

/-- A module's file is named after its entry. -/
theorem path_ofModule (hgenerates : Generates configuration generation) {spec : SerializerModule}
    (hspec : spec ∈ generation.modules) :
    (File.ofModule spec).path = spec.stem configuration.options ++ ".rs" := by
  obtain ⟨entry, -, hentry, hname⟩ := hgenerates.module spec hspec
  rw [File.ofModule, hname, ← hentry, SerializerModule.stem]

/-- The files are named after the targets of units and the entries of modules. -/
theorem map_path_files (hchecked : configuration.Checked)
    (hgenerates : Generates configuration generation) :
    (files generation).map (·.path) =
      (generation.stems configuration.options).map (· ++ ".rs") := by
  have hunits : (generation.units.map File.ofUnit).map (·.path) =
      (generation.units.map (·.stem configuration.options)).map (· ++ ".rs") := by
    rw [List.map_map, List.map_map]
    exact List.map_congr_left fun unit hunit => path_ofUnit hchecked hgenerates hunit
  have hmodules : (generation.modules.map File.ofModule).map (·.path) =
      (generation.modules.map (·.stem configuration.options)).map (· ++ ".rs") := by
    rw [List.map_map, List.map_map]
    exact List.map_congr_left fun spec hspec => path_ofModule hgenerates hspec
  rw [files, List.map_append, hunits, hmodules, Generation.stems, List.map_append]

theorem isPath_target (hchecked : configuration.Checked)
    (hgenerates : Generates configuration generation) {unit : SurrogateUnit}
    (hunit : unit ∈ generation.units) : TypeName.isPath unit.target.text.toList = true := by
  obtain ⟨entry, hentry, htarget⟩ := hgenerates.target unit hunit
  exact hchecked.targets entry hentry unit.target htarget

/-- The stems are snake cases of words. -/
theorem isIdentifier_of_mem_files (hchecked : configuration.Checked)
    (hgenerates : Generates configuration generation) :
    ∀ file ∈ files generation, ∃ name, isIdentifier name = true ∧
      file.path = Text.snakeCase name ++ ".rs" := by
  intro file hfile
  rcases List.mem_append.mp hfile with hunits | hmodules
  · obtain ⟨unit, hunit, rfl⟩ := List.mem_map.mp hunits
    refine ⟨_, ?_, path_ofUnit hchecked hgenerates hunit⟩
    exact isIdentifier_append (TypeName.isWord_simple (isPath_target hchecked hgenerates hunit))
      hchecked.surrogateSuffix
  · obtain ⟨spec, hspec, rfl⟩ := List.mem_map.mp hmodules
    obtain ⟨entry, hentry, hname, -⟩ := hgenerates.module spec hspec
    refine ⟨_, ?_, path_ofModule hgenerates hspec⟩
    rw [hname]
    exact isIdentifier_append (hchecked.entryName hentry) hchecked.moduleSuffix

/-- The paths are plain file names. -/
theorem isName_of_mem_files (hchecked : configuration.Checked)
    (hgenerates : Generates configuration generation) :
    ∀ file ∈ files generation, Files.IsName file.path := by
  intro file hfile
  obtain ⟨name, hname, hpath⟩ := isIdentifier_of_mem_files hchecked hgenerates file hfile
  exact hpath ▸ Files.isName_snakeCase hname

/-! ## §3 The texts of files -/

theorem foldl_lines (text : String) (lines : List String) :
    lines.foldl (fun text line => text ++ line ++ "\n") text = text ++ joinLines lines := by
  induction lines generalizing text with
  | nil => simp [joinLines]
  | cons first rest ih =>
    rw [joinLines, List.foldl_cons, List.foldl_cons, ih, ih]
    simp [String.append_assoc]

theorem joinLines_cons (first : String) (rest : List String) :
    joinLines (first :: rest) = first ++ ("\n" ++ joinLines rest) := by
  rw [joinLines, List.foldl_cons, foldl_lines]
  simp [String.append_assoc]

theorem contents_ofUnit (unit : SurrogateUnit) : ∃ rest, (File.ofUnit unit).contents =
    "// @generated by surrogate-gen from `" ++ unit.target.text ++ "`" ++ rest := by
  obtain ⟨rest, hrest⟩ : ∃ rest, (UnitFile.of unit).lines =
      ("// @generated by surrogate-gen from `" ++ unit.target.text ++ "`. Do not edit.") :: rest :=
    ⟨_, by rw [UnitFile.lines, line_zero]; rfl⟩
  refine ⟨". Do not edit.\n" ++ joinLines rest, ?_⟩
  rw [File.ofUnit, hrest, joinLines_cons]
  apply String.toList_inj.mp
  simp

theorem contents_ofModule (spec : SerializerModule) : ∃ rest, (File.ofModule spec).contents =
    "// @generated by surrogate-gen for configuration `" ++ rest := by
  obtain ⟨rest, hrest⟩ : ∃ rest, moduleLines spec =
      ("// @generated by surrogate-gen for configuration `" ++ spec.entry ++ "`. Do not edit.")
        :: rest :=
    ⟨_, by rw [moduleLines, line_zero]; rfl⟩
  refine ⟨spec.entry ++ "`. Do not edit.\n" ++ joinLines rest, ?_⟩
  rw [File.ofModule, hrest, joinLines_cons]
  apply String.toList_inj.mp
  simp

/-- What stands before the first character of a kind can be told. -/
theorem eq_of_append_cons {c : Char} {cs ds rest more : List Char} (hcs : c ∉ cs) (hds : c ∉ ds)
    (h : cs ++ c :: rest = ds ++ c :: more) : cs = ds := by
  have hbefore : ∀ {cs rest : List Char}, c ∉ cs → (cs ++ c :: rest).takeWhile (· != c) = cs := by
    intro cs rest hcs
    rw [List.takeWhile_append_of_pos]
    · simp
    · intro d hd
      exact bne_iff_ne.mpr fun heq => hcs (heq ▸ hd)
  rw [← hbefore hcs, h, hbefore hds]

/-- The file of a unit tells its target. -/
theorem target_eq_of_contents_eq {unit other : SurrogateUnit}
    (hunit : TypeName.isPath unit.target.text.toList = true)
    (hother : TypeName.isPath other.target.text.toList = true)
    (h : (File.ofUnit unit).contents = (File.ofUnit other).contents) :
    unit.target = other.target := by
  have hquote : ∀ {cs : List Char}, TypeName.isPath cs = true → '\x60' ∉ cs :=
    fun hpath => TypeName.notMem_of_isPath hpath (by decide) (by decide)
  obtain ⟨rest, hrest⟩ := contents_ofUnit unit
  obtain ⟨more, hmore⟩ := contents_ofUnit other
  rw [hrest, hmore, ← String.toList_inj] at h
  simp only [String.toList_append, List.append_assoc, List.append_cancel_left_eq] at h
  have htext := eq_of_append_cons (hquote hunit) (hquote hother) h
  exact congrArg TypeName.mk (String.toList_inj.mp htext)

/-- No module has the text of a unit. -/
theorem contents_ofUnit_ne (unit : SurrogateUnit) (spec : SerializerModule) :
    (File.ofUnit unit).contents ≠ (File.ofModule spec).contents := by
  intro h
  obtain ⟨rest, hrest⟩ := contents_ofUnit unit
  obtain ⟨more, hmore⟩ := contents_ofModule spec
  rw [hrest, hmore, ← String.toList_inj] at h
  simp at h

/-! ## §4 What is left after writing -/

open CommandLine

variable {directory : String} {before after : Disk}

theorem stem_injective {stem other : String} (h : stem ++ ".rs" = other ++ ".rs") :
    stem = other := by
  rw [← String.toList_inj] at h ⊢
  simpa using h

/-- A module's path holds a module, since modules are written behind units. -/
theorem exists_module_last {spec : SerializerModule} (hspec : spec ∈ generation.modules) :
    ∃ last ∈ generation.modules, (File.ofModule last).path = (File.ofModule spec).path ∧
      (files generation).reverse.find? (·.path == (File.ofModule spec).path) =
        some (File.ofModule last) := by
  obtain ⟨file, hlast, hfile, hpath⟩ :=
    exists_last (List.mem_map_of_mem (f := File.ofModule) hspec)
  obtain ⟨last, hmem, rfl⟩ := List.mem_map.mp hfile
  refine ⟨last, hmem, hpath, ?_⟩
  rw [files, List.reverse_append, List.find?_append, hlast]
  rfl

theorem holds_units_iff (hchecked : configuration.Checked)
    (hgenerates : Generates configuration generation)
    (h : Leads (writeSources directory (files generation)) before after) :
    (∀ unit ∈ generation.units, Holds after directory (File.ofUnit unit)) ↔
      ∀ unit ∈ generation.units,
        (∀ other ∈ generation.units,
          other.stem configuration.options = unit.stem configuration.options → other = unit) ∧
        ∀ spec ∈ generation.modules,
          spec.stem configuration.options ≠ unit.stem configuration.options := by
  have hnames := isName_of_mem_files hchecked hgenerates
  constructor
  · intro hholds unit hunit
    constructor
    · intro other hother hstem
      have hpath : (File.ofUnit other).path = (File.ofUnit unit).path := by
        rw [path_ofUnit hchecked hgenerates hother, path_ofUnit hchecked hgenerates hunit, hstem]
      have hcontents := (hholds other hother).contents_eq (hholds unit hunit) hpath
      exact hgenerates.unique other hother unit hunit (target_eq_of_contents_eq
        (isPath_target hchecked hgenerates hother) (isPath_target hchecked hgenerates hunit)
        hcontents)
    · intro spec hspec hstem
      have hpath : (File.ofUnit unit).path = (File.ofModule spec).path := by
        rw [path_ofUnit hchecked hgenerates hunit, path_ofModule hgenerates hspec, hstem]
      obtain ⟨last, -, hpathLast, hlast⟩ := exists_module_last hspec
      exact contents_ofUnit_ne unit last ((hholds unit hunit).contents_eq
        (holds_writeSources hnames h hlast) (hpath.trans hpathLast.symm))
  · intro hdistinct unit hunit
    obtain ⟨hunits, hmodules⟩ := hdistinct unit hunit
    obtain ⟨last, hlast, hmem, hpath⟩ := exists_last (List.mem_append_left
      (generation.modules.map File.ofModule) (List.mem_map_of_mem (f := File.ofUnit) hunit))
    have hheld := holds_writeSources hnames h hlast
    rw [path_ofUnit hchecked hgenerates hunit] at hpath
    rcases List.mem_append.mp hmem with hmem | hmem
    · obtain ⟨other, hother, rfl⟩ := List.mem_map.mp hmem
      rw [path_ofUnit hchecked hgenerates hother] at hpath
      exact hunits other hother (stem_injective hpath) ▸ hheld
    · obtain ⟨spec, hspec, rfl⟩ := List.mem_map.mp hmem
      rw [path_ofModule hgenerates hspec] at hpath
      exact absurd (stem_injective hpath) (hmodules spec hspec)

theorem holds_modules_iff (hchecked : configuration.Checked)
    (hgenerates : Generates configuration generation)
    (h : Leads (writeSources directory (files generation)) before after) :
    (∀ spec ∈ generation.modules, Holds after directory (File.ofModule spec)) ↔
      ∀ spec ∈ generation.modules, ∀ other ∈ generation.modules,
        spec.stem configuration.options = other.stem configuration.options →
          (File.ofModule spec).contents = (File.ofModule other).contents := by
  have hnames := isName_of_mem_files hchecked hgenerates
  constructor
  · intro hholds spec hspec other hother hstem
    refine (hholds spec hspec).contents_eq (hholds other hother) ?_
    rw [path_ofModule hgenerates hspec, path_ofModule hgenerates hother, hstem]
  · intro hsame spec hspec
    obtain ⟨last, hmem, hpath, hlast⟩ := exists_module_last hspec
    refine (holds_writeSources hnames h hlast).of_eq hpath (hsame last hmem spec hspec ?_)
    rw [path_ofModule hgenerates hmem, path_ofModule hgenerates hspec] at hpath
    exact stem_injective hpath

/-- **When no output is lost.** The files of a generation are named after the simple
names of targets and the names of entries, in snake case, and their paths are
distinct exactly if these are. After a successful writing every file stands with
its text if they are; all units do exactly if no other unit and no module has the
name of one, and all modules do exactly if those of one name have one text. -/
theorem files_written (hchecked : configuration.Checked) (catalog : Catalog)
    (synthesized : List TypeName) :
    let options := configuration.options
    let generation :=
      ((⟨options, synthesized⟩ : Generator).run catalog configuration.entries).1
    (files generation).map (·.path) = (generation.stems options).map (· ++ ".rs") ∧
    (((files generation).map (·.path)).Nodup ↔ (generation.stems options).Nodup) ∧
    ∀ directory before after, Leads (writeSources directory (files generation)) before after →
      ((generation.stems options).Nodup →
        ∀ file ∈ files generation, Holds after directory file) ∧
      ((∀ unit ∈ generation.units, Holds after directory (File.ofUnit unit)) ↔
        ∀ unit ∈ generation.units,
          (∀ other ∈ generation.units,
            other.stem options = unit.stem options → other = unit) ∧
          ∀ spec ∈ generation.modules, spec.stem options ≠ unit.stem options) ∧
      ((∀ spec ∈ generation.modules, Holds after directory (File.ofModule spec)) ↔
        ∀ spec ∈ generation.modules, ∀ other ∈ generation.modules,
          spec.stem options = other.stem options →
            (File.ofModule spec).contents = (File.ofModule other).contents) := by
  intro options generation
  have hgenerates : Generates configuration generation :=
    generates_run configuration catalog synthesized
  have hpaths := map_path_files hchecked hgenerates
  have hnodup : ((files generation).map (·.path)).Nodup ↔ (generation.stems options).Nodup := by
    rw [hpaths]
    exact List.nodup_map_iff fun stem other h => stem_injective h
  refine ⟨hpaths, hnodup, fun directory before after h => ⟨fun hdistinct file hfile => ?_,
    holds_units_iff hchecked hgenerates h, holds_modules_iff hchecked hgenerates h⟩⟩
  obtain ⟨last, hlast, hmem, hpath⟩ := exists_last hfile
  obtain rfl := List.inj_on_of_nodup_map (hnodup.mpr hdistinct) hmem hfile hpath
  exact holds_writeSources (isName_of_mem_files hchecked hgenerates) h hlast

/-! ## §5 Two teams -/

/-- Teams of two kinds. -/
def leagueCatalog : Catalog := .ofList
  [⟨⟨"crate::hr::Team"⟩, false, [⟨"lead", .node ⟨"String"⟩ [] false, .exported⟩]⟩,
   ⟨⟨"crate::sport::Team"⟩, false, [⟨"size", .node ⟨"u32"⟩ [] false, .exported⟩]⟩]

/-- A configuration that lists one kind of team. -/
def clubConfiguration : Configuration :=
  ⟨.standard, [(Entry.named "Club").target ⟨"crate::sport::Team"⟩]⟩

/-- What is generated for one kind of team. -/
def clubGeneration : Generation :=
  ((⟨.standard, []⟩ : Generator).run leagueCatalog clubConfiguration.entries).1

/-- A disk without files. -/
def emptyDisk : Disk := ⟨.directory [], []⟩

/-- A unit and a module of different names are both left after writing. -/
theorem files_written_club : clubConfiguration.Checked ∧
    (clubGeneration.stems .standard).Nodup ∧
    ∃ after, Leads (writeSources "out" (files clubGeneration)) emptyDisk after ∧
      ∀ file ∈ files clubGeneration, Holds after "out" file := by
  have hchecked : clubConfiguration.Checked := ⟨by decide, by decide⟩
  have hdistinct : (clubGeneration.stems .standard).Nodup := by decide +kernel
  have hleads : Leads (writeSources "out" (files clubGeneration)) emptyDisk
      (emptyDisk.run (writeSources "out" (files clubGeneration)).run).2 :=
    leads_of_isSome (by decide +kernel)
  obtain ⟨-, -, hwritten⟩ := files_written hchecked leagueCatalog []
  exact ⟨hchecked, hdistinct, _, hleads, (hwritten "out" emptyDisk _ hleads).1 hdistinct⟩

/-- A configuration that lists both kinds of teams. -/
def leagueConfiguration : Configuration :=
  ⟨.standard,
    [((Entry.named "League").target ⟨"crate::hr::Team"⟩).target ⟨"crate::sport::Team"⟩]⟩

/-- What is generated for both kinds of teams. -/
def leagueGeneration : Generation :=
  ((⟨.standard, []⟩ : Generator).run leagueCatalog leagueConfiguration.entries).1

/-- The units of both kinds of teams have one path, and one of them is lost. -/
theorem team_lost : leagueConfiguration.Checked ∧
    (files leagueGeneration).map (·.path) =
      ["team_surrogate.rs", "team_surrogate.rs", "league_module.rs"] ∧
    ∃ after, Leads (writeSources "out" (files leagueGeneration)) emptyDisk after ∧
      ¬∀ file ∈ files leagueGeneration, Holds after "out" file := by
  have hleads : Leads (writeSources "out" (files leagueGeneration)) emptyDisk
      (emptyDisk.run (writeSources "out" (files leagueGeneration)).run).2 :=
    leads_of_isSome (by decide +kernel)
  have hchecked : leagueConfiguration.Checked := ⟨by decide, by decide⟩
  refine ⟨hchecked, by decide +kernel, _, hleads, fun hholds => ?_⟩
  have hgenerates : Generates leagueConfiguration leagueGeneration :=
    generates_run leagueConfiguration leagueCatalog []
  have hunits := (holds_units_iff hchecked hgenerates hleads).mp fun unit hunit =>
    hholds _ (List.mem_append_left _ (List.mem_map_of_mem hunit))
  have hsame : ∀ unit ∈ leagueGeneration.units, ∀ other ∈ leagueGeneration.units,
      other.stem .standard = unit.stem .standard → other.target = unit.target :=
    fun unit hunit other hother hstem =>
      congrArg SurrogateUnit.target ((hunits unit hunit).1 other hother hstem)
  exact absurd hsame (by decide +kernel)

end Source

end Surrogates
