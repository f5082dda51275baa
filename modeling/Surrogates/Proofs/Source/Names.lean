/-
Surrogates.Proofs.Source.Names — names that stay valid up to the files.

What is loaded names types and serializers by paths, and entries and suffixes by words.
The names that a generation makes of them are never checked, and need not be: a path
with a word behind it is a path, a word behind a word is a word, and a word in snake case
is a file name. So all names in a generation of loaded inputs are valid, as those of a
command are (`gives_generate`), and its files are written in the directory that they are
meant for: `wellNamed_run`.
-/
import Surrogates.Proofs.CommandLine.Loading
import Surrogates.Proofs.Files.Directory
import Surrogates.Proofs.Generation.DerivedSerializers
import Surrogates.Proofs.Source.Paths

namespace Surrogates

/-! ## §1 Names in a generation -/

/-- A generation in which the names of types and serializers are paths, and those of
modules words. -/
structure Generation.WellNamed (generation : Generation) : Prop where
  surrogate : ∀ unit ∈ generation.units,
    TypeName.parse? unit.surrogate.name.text = some unit.surrogate.name
  serializer : ∀ unit ∈ generation.units,
    TypeName.parse? unit.serializer.name.text = some unit.serializer.name
  reference : ∀ s, generation.Holds s → TypeName.parse? s.name.text = some s.name
  registration : ∀ spec ∈ generation.modules, ∀ pair ∈ spec.pairs,
    TypeName.parse? pair.target.text = some pair.target
  module : ∀ spec ∈ generation.modules, isIdentifier spec.name = true

theorem Configuration.Checked.serializerSuffix {configuration : Configuration}
    (h : configuration.Checked) : isIdentifier configuration.options.serializerSuffix = true :=
  (Options.check?_eq_none.mp (check?_eq_none.mp h.names).1).2.1

/-- The names of serializers with an origin in a sound entry are paths. -/
theorem Origin.isPath {catalog : Catalog} {options : Options} {entry : Entry} {target : TypeName}
    {s : Serializer} (hcatalog : catalog.Loaded) (hentry : entry.Sound)
    (hsuffix : isIdentifier options.serializerSuffix = true)
    (h : Origin catalog (.ofOptions options) entry target s) :
    TypeName.isPath s.name.text.toList = true := by
  cases h with
  | ofClass hdeclared => exact (hentry.classOverrides _ hdeclared).serializer
  | ofField hdeclared =>
    obtain ⟨group, hgroup, hdecl⟩ := List.mem_flatMap.mp hdeclared
    obtain ⟨decl, hdecl, heq⟩ := List.mem_map.mp hdecl
    cases heq
    exact (hentry.fieldOverrides group hgroup).fields _ hdecl
  | ofType _ hdeclared => exact TypeName.isPath_withIdentifier (hcatalog.isPath hdeclared) hsuffix

/-- What a sound entry registers has paths as names. -/
theorem Entry.isPath_of_mem_registrations {entry : Entry} {options : Options}
    {synthesized : List TypeName} (hentry : entry.Sound)
    (hsuffix : isIdentifier options.serializerSuffix = true) {pair : Registration}
    (h : pair ∈ entry.registrations options synthesized) :
    TypeName.isPath pair.target.text.toList = true ∧
      TypeName.isPath pair.serializer.name.text.toList = true := by
  rcases List.mem_append.mp h with h | h
  · obtain ⟨target, htarget, rfl⟩ := List.mem_map.mp h
    have hpath := hentry.targets target (List.mem_eraseDups.mp (List.mem_filter.mp htarget).1)
    exact ⟨hpath, TypeName.isPath_withIdentifier hpath hsuffix⟩
  · obtain ⟨decl, hdecl, rfl⟩ := List.mem_map.mp h
    obtain ⟨htype, hserializer⟩ := hentry.classOverrides decl hdecl
    exact ⟨htype, hserializer⟩

namespace Source

variable {catalog : Catalog} {configuration : Configuration}

/-- The names of serializers in the units of a run are paths. -/
theorem isPath_of_holds_unit (hcatalog : catalog.Loaded) (hconfiguration : configuration.Loaded)
    (hsuffix : isIdentifier configuration.options.serializerSuffix = true)
    (synthesized : List TypeName) {unit : SurrogateUnit}
    (hunit : unit ∈ ((⟨configuration.options, synthesized⟩ : Generator).run catalog
      configuration.entries).1.units) {s : Serializer} (h : unit.Holds s) :
    TypeName.isPath s.name.text.toList = true := by
  rw [units_run] at hunit
  obtain ⟨entry, hemission⟩ := Generator.exists_emission hunit
  obtain ⟨ready, hready, -, -, -, decl, hdecl, hsynthesize⟩ := Generator.of_mem_emissions hemission
  obtain ⟨hentry, hsame, hnaming, hoverrides⟩ := Generator.mem_readyEntries hready
  have horigin := Context.origin_of_refers (Overrides.declaredBy_of_ofEntry hoverrides)
    (hsame ▸ hdecl) hsynthesize (Context.refers_of_holds hsynthesize h)
  rw [hsame, hnaming] at horigin
  exact horigin.isPath hcatalog (hconfiguration.sound _ hentry) hsuffix

/-- The names in the modules of a run are paths. -/
theorem isPath_of_mem_pairs (hconfiguration : configuration.Loaded)
    (hsuffix : isIdentifier configuration.options.serializerSuffix = true)
    (synthesized : List TypeName) {spec : SerializerModule}
    (hspec : spec ∈ ((⟨configuration.options, synthesized⟩ : Generator).run catalog
      configuration.entries).1.modules) {pair : Registration} (hpair : pair ∈ spec.pairs) :
    TypeName.isPath pair.target.text.toList = true ∧
      TypeName.isPath pair.serializer.name.text.toList = true := by
  rw [modules_run, Generator.modules_eq] at hspec
  obtain ⟨entry, hentry, hmodule⟩ := List.mem_filterMap.mp hspec
  have hmem := (Generator.mem_map_entry_agenda.mp hentry).1
  have hregistered := (Generator.exists_moduleWhere_iff.mp ⟨spec, hmodule, hpair⟩).1
  exact Entry.isPath_of_mem_registrations (hconfiguration.sound entry hmem) hsuffix hregistered

/-- All names in a run on loaded inputs are valid. -/
theorem wellNamed_of_loaded (hcatalog : catalog.Loaded) (hconfiguration : configuration.Loaded)
    (hnames : configuration.check? = none) (synthesized : List TypeName) :
    ((⟨configuration.options, synthesized⟩ : Generator).run catalog
      configuration.entries).1.WellNamed := by
  have hchecked := hconfiguration.checked hnames
  have hgenerates := generates_run configuration catalog synthesized
  refine ⟨fun unit hunit => ?_, fun unit hunit => ?_, fun s hs => ?_, fun spec hspec pair hpair => ?_,
    fun spec hspec => ?_⟩
  · refine TypeName.parse?_eq_some ?_
    rw [hgenerates.surrogate unit hunit]
    exact TypeName.isPath_withIdentifier (isPath_target hchecked hgenerates hunit)
      hchecked.surrogateSuffix
  · refine TypeName.parse?_eq_some ?_
    rw [Generator.serializerName_of_mem_units (units_run _ _ _ ▸ hunit)]
    exact TypeName.isPath_withIdentifier (isPath_target hchecked hgenerates hunit)
      hchecked.serializerSuffix
  · refine TypeName.parse?_eq_some ?_
    cases hs with
    | ofUnit hunit hholds =>
      exact isPath_of_holds_unit hcatalog hconfiguration hchecked.serializerSuffix _ hunit hholds
    | ofModule hspec hpair hs =>
      exact hs ▸ (isPath_of_mem_pairs hconfiguration hchecked.serializerSuffix _ hspec hpair).2
  · exact TypeName.parse?_eq_some
      (isPath_of_mem_pairs hconfiguration hchecked.serializerSuffix _ hspec hpair).1
  · obtain ⟨entry, hentry, -, hname⟩ := hgenerates.module spec hspec
    exact hname ▸ isIdentifier_append (hchecked.entryName hentry) hchecked.moduleSuffix

/-- All names in the generation of a command are valid, whatever is on the disk. -/
theorem gives_generate (command : CommandLine.Command) :
    CommandLine.Gives Generation.WellNamed (CommandLine.generate command) := by
  refine CommandLine.gives_bind (CommandLine.of_load command) ?_
  rintro ⟨catalog, configuration⟩ ⟨hcatalog, hconfiguration, hnames⟩
  exact CommandLine.gives_pure (wellNamed_of_loaded hcatalog hconfiguration hnames [])

/-! ## §2 Names in files -/

/-- Every keyword but the underscore has a lower case letter. -/
theorem exists_isLower_of_mem_keywords {word : String} (h : word ∈ Grammar.keywords) :
    word = "_" ∨ ∃ c ∈ word.toList, c.isLower = true := by
  have hall : (Grammar.keywords.all fun word => word == "_" || word.toList.any Char.isLower) =
      true := by
    decide +kernel
  have hword := List.all_eq_true.mp hall word h
  rwa [Bool.or_eq_true, beq_iff_eq, List.any_eq_true] at hword

/-- The name of a module's list is a word and no keyword, if the module's name is a word
of two characters or more. -/
theorem isIdentifier_staticName {name : String} (h : isIdentifier name = true)
    (hlong : 2 ≤ name.toList.length) :
    isIdentifier (staticName name) = true ∧ Grammar.isIdentifier (staticName name) = true := by
  refine ⟨Text.isWord_upperText_snakeCase h, ?_⟩
  rw [Grammar.isIdentifier, Bool.not_eq_true', ← Bool.not_eq_true, List.contains_iff_mem]
  intro hkeyword
  rcases exists_isLower_of_mem_keywords hkeyword with heq | ⟨c, hc, hlower⟩
  · have hlength := Nat.le_trans hlong (Text.length_le_upperText h)
    rw [← staticName, heq] at hlength
    exact absurd hlength (by decide)
  · rw [Text.isLower_eq_false_of_mem_upperText h c hc] at hlower
    cases hlower

theorem one_le_length_of_isIdentifier {text : String} (h : isIdentifier text = true) :
    1 ≤ text.toList.length := by
  cases htext : text.toList with
  | nil =>
    rw [isIdentifier, htext] at h
    cases h
  | cons c rest => exact Nat.le_add_left 1 _

/-- **Names stay valid.** In a run on loaded catalogs and configurations, under options
that pass, all names are valid. The names of the files are of lower case letters, digits
and underscores, with the ending behind them, so that writing them stays in the
directory; and the lists in the files of modules are named by identifiers. -/
theorem wellNamed_run (hcatalog : catalog.Loaded) (hconfiguration : configuration.Loaded)
    (hnames : configuration.check? = none) (synthesized : List TypeName) :
    let generation :=
      ((⟨configuration.options, synthesized⟩ : Generator).run catalog configuration.entries).1
    generation.WellNamed ∧
    (∀ file ∈ files generation, ∃ stem : String,
      file.path = stem ++ ".rs" ∧ stem ≠ "" ∧ ∀ c ∈ stem.toList, Text.isPlain c = true) ∧
    (∀ directory before, Disk.OnlyWrites directory ((files generation).map (·.path)) before
      (before.run (CommandLine.writeSources directory (files generation)).run).2) ∧
    ∀ spec ∈ generation.modules, isIdentifier (staticName spec.name) = true ∧
      Grammar.isIdentifier (staticName spec.name) = true := by
  intro generation
  have hchecked := hconfiguration.checked hnames
  have hgenerates : Generates configuration generation :=
    generates_run configuration catalog synthesized
  have hwellNamed : generation.WellNamed :=
    wellNamed_of_loaded hcatalog hconfiguration hnames synthesized
  refine ⟨hwellNamed, fun file hfile => ?_, fun directory before => ?_, fun spec hspec => ?_⟩
  · obtain ⟨name, hname, hpath⟩ := isIdentifier_of_mem_files hchecked hgenerates file hfile
    exact ⟨_, hpath, Text.snakeCase_ne_empty hname, Text.isPlain_of_mem_snakeCase hname⟩
  · exact CommandLine.onlyWrites_writeSources directory (isName_of_mem_files hchecked hgenerates)
      before
  · refine isIdentifier_staticName (hwellNamed.module spec hspec) ?_
    obtain ⟨entry, hentry, -, hname⟩ := hgenerates.module spec hspec
    have hentryName := one_le_length_of_isIdentifier (hchecked.entryName hentry)
    have hmoduleSuffix := one_le_length_of_isIdentifier hchecked.moduleSuffix
    rw [hname, String.toList_append, List.length_append]
    exact Nat.add_le_add hentryName hmoduleSuffix

/-! ## §3 Teams and persons -/

/-- A document that declares teams and persons. -/
def teamText : String :=
  "[[[\"::hr::Team\", false, [[\"lead\", \"Option<crate::Person>\"]]], " ++
    "[\"crate::Person\", false, [[\"name\", \"String\"]]]]]"

/-- What the document declares. -/
def teamDecls : List TypeDecl :=
  [⟨⟨"::hr::Team"⟩, false, [⟨"lead", .node ⟨"crate::Person"⟩ [] true, .exported⟩]⟩,
   ⟨⟨"crate::Person"⟩, false, [⟨"name", .node ⟨"String"⟩ [] false, .exported⟩]⟩]

/-- A document that lists teams, with suffixes and a serializer for persons. -/
def sportText : String :=
  "[[\"Adapter\", \"By2\"], [[\"SportClub\", [\"::hr::Team\"], [[\"crate::Person\", \"::ById\"]]]]]"

/-- The entry of the document. -/
def sportEntry : Entry :=
  ((Entry.named "SportClub").target ⟨"::hr::Team"⟩).overrideClass ⟨"crate::Person"⟩ ⟨"::ById"⟩

/-- A document that lists persons. -/
def staffText : String := "[[], [[\"staff\", [\"crate::Person\"]]]]"

/-- The entry of the document. -/
def staffEntry : Entry := (Entry.named "staff").target ⟨"crate::Person"⟩

/-- A disk with the documents. -/
def sportDisk : Disk :=
  ⟨.directory [("team.json", .file teamText), ("sport.json", .file sportText),
    ("staff.json", .file staffText)], []⟩

/-- A command that loads them and gives modules a suffix. -/
def sportCommand : CommandLine.Command where
  product := .sources
  catalogs := ["team.json"]
  configurations := ["sport.json", "staff.json"]
  surrogateSuffix := none
  serializerSuffix := none
  moduleSuffix := some "_List"
  out := none
  idle := false

/-- Both documents under the suffixes of the first one but for that of modules. -/
def joinedConfiguration : Configuration := ⟨⟨"Adapter", "By2", "_List"⟩, [sportEntry, staffEntry]⟩

/-- What is generated for both documents. -/
def joinedGeneration : Generation :=
  ((⟨joinedConfiguration.options, []⟩ : Generator).run (.ofList teamDecls)
    joinedConfiguration.entries).1

theorem load_sport : (sportDisk.run (CommandLine.load sportCommand).run).1 =
    .ok (.ofList teamDecls, joinedConfiguration) := by
  have hentries : (sportDisk.run (CommandLine.load sportCommand).run).1.map
      (Prod.map (·.types.entries) id) =
        .ok ((Catalog.ofList teamDecls).types.entries, joinedConfiguration) := by
    decide +kernel
  obtain ⟨⟨⟨⟨entries, _⟩⟩, configuration⟩, hload, heq⟩ := Except.map_eq_ok.mp hentries
  obtain ⟨rfl, rfl⟩ := Prod.mk.inj heq
  exact hload

/-- The names of teams, clubs and staff, which a command loads, stay valid. -/
theorem wellNamed_joined :
    (sportDisk.run (CommandLine.load sportCommand).run).1 =
        .ok (.ofList teamDecls, joinedConfiguration) ∧
      Catalog.read teamText = .ok (.ofList teamDecls) ∧
      Configuration.read sportText = .ok ⟨⟨"Adapter", "By2", "Module"⟩, [sportEntry]⟩ ∧
      Configuration.read staffText = .ok ⟨.standard, [staffEntry]⟩ ∧
      joinedConfiguration.check? = none ∧ joinedGeneration.WellNamed ∧
      (files joinedGeneration).map (·.path) =
        ["team_adapter.rs", "person_adapter.rs", "sport_club_list.rs", "staff_list.rs"] ∧
      isIdentifier (staticName "SportClub_List") = true := by
  have hdeclared : Document.read (Catalog.layout.read []) teamText = .ok teamDecls := by
    decide +kernel
  have hteam : Catalog.read teamText = .ok (.ofList teamDecls) := by
    rw [Catalog.read, hdeclared]
    rfl
  have hsport : Configuration.read sportText =
      .ok ⟨⟨"Adapter", "By2", "Module"⟩, [sportEntry]⟩ := by decide +kernel
  have hstaff : Configuration.read staffText = .ok ⟨.standard, [staffEntry]⟩ := by decide +kernel
  obtain ⟨hcatalog, hconfiguration, hnames⟩ :=
    CommandLine.of_load sportCommand sportDisk _ load_sport
  obtain ⟨hwellNamed, -, -, hlists⟩ := wellNamed_run hcatalog hconfiguration hnames []
  refine ⟨load_sport, hteam, hsport, hstaff, hnames, hwellNamed, by decide +kernel, ?_⟩
  obtain ⟨spec, hspec, hname⟩ : ∃ spec ∈ joinedGeneration.modules, spec.name = "SportClub_List" := by
    decide +kernel
  exact hname ▸ (hlists spec hspec).1

end Source

end Surrogates
