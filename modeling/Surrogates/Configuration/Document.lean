/-
Surrogates.Configuration.Document — configurations as JSON documents.

`Configuration.read` reads a document and then checks its names;
`Configuration.toJson` writes a configuration in the form that is read.
-/
import Surrogates.Configuration.Basic
import Surrogates.Document.Names

namespace Surrogates

open Document

/-! ## §1 Layouts -/

/-- How options are written. -/
def Options.layout : Layout Options where
  name := "GeneratorOptions"
  strict := true
  fields :=
    [.optional "surrogate_suffix" string fun options s => { options with surrogateSuffix := s },
     .optional "serializer_suffix" string fun options s => { options with serializerSuffix := s },
     .optional "module_suffix" string fun options s => { options with moduleSuffix := s }]

/-- How a serializer for a type is written. -/
def ClassOverride.layout : Layout ClassOverride where
  name := "ClassOverrideDecl"
  strict := false
  fields :=
    [.required "type" typeName fun decl type => { decl with type },
     .required "serializer" typeName fun decl serializer => { decl with serializer }]

/-- How a serializer for a field is written. -/
def FieldOverride.layout : Layout FieldOverride where
  name := "FieldOverrideDecl"
  strict := false
  fields :=
    [.required "field" string fun decl field => { decl with field },
     .required "serializer" typeName fun decl serializer => { decl with serializer }]

/-- How the serializers for fields of a type are written. -/
def FieldOverrides.layout : Layout FieldOverrides where
  name := "FieldOverrideGroup"
  strict := false
  fields :=
    [.required "type" typeName fun group type => { group with type },
     .required "fields" (sequence (FieldOverride.layout.read default))
       fun group fields => { group with fields }]

/-- How an entry is written. -/
def Entry.layout : Layout Entry where
  name := "ConfigEntry"
  strict := true
  fields :=
    [.required "name" string fun entry name => { entry with name },
     .required "targets" (sequence typeName) fun entry targets => { entry with targets },
     .optional "class_overrides" (sequence (ClassOverride.layout.read default))
       fun entry classOverrides => { entry with classOverrides },
     .optional "field_overrides" (sequence (FieldOverrides.layout.read default))
       fun entry fieldOverrides => { entry with fieldOverrides },
     .optional "exclude_from_module" (sequence typeName)
       fun entry excluded => { entry with excluded }]

/-- How a configuration is written. -/
def Configuration.layout : Layout Configuration where
  name := "GenerationConfig"
  strict := false
  fields :=
    [.optional "options" (Options.layout.read .standard)
       fun configuration options => { configuration with options },
     .required "entries" (sequence (Entry.layout.read (.named "")))
       fun configuration entries => { configuration with entries }]

/-! ## §2 Reading -/

/-- Why a text is no configuration. -/
inductive Configuration.Refusal where
  | fault (fault : Fault)
  | name (error : NameError)
  deriving DecidableEq, Repr

/-- The configuration that a text writes, its names checked. -/
def Configuration.read (text : String) : Except Configuration.Refusal Configuration :=
  match Document.read (Configuration.layout.read ⟨.standard, []⟩) text with
  | .error fault => .error (.fault fault)
  | .ok configuration =>
    match configuration.check? with
    | some e => .error (.name e)
    | none => .ok configuration

/-! ## §3 Writing -/

/-- Options as they are read. -/
def Options.toJson (options : Options) : Json :=
  .object [("surrogate_suffix", .string options.surrogateSuffix),
    ("serializer_suffix", .string options.serializerSuffix),
    ("module_suffix", .string options.moduleSuffix)]

/-- Names as they are read. -/
def typeNamesToJson (names : List TypeName) : Json :=
  .ofStrings (names.map (·.text))

/-- A serializer for a type as it is read. -/
def ClassOverride.toJson (decl : ClassOverride) : Json :=
  .object [("type", .string decl.type.text), ("serializer", .string decl.serializer.text)]

/-- A serializer for a field as it is read. -/
def FieldOverride.toJson (decl : FieldOverride) : Json :=
  .object [("field", .string decl.field), ("serializer", .string decl.serializer.text)]

/-- The serializers for fields of a type as they are read. -/
def FieldOverrides.toJson (group : FieldOverrides) : Json :=
  .object [("type", .string group.type.text), ("fields", .array (group.fields.map (·.toJson)))]

/-- An entry as it is read. -/
def Entry.toJson (entry : Entry) : Json :=
  .object [("name", .string entry.name), ("targets", typeNamesToJson entry.targets),
    ("class_overrides", .array (entry.classOverrides.map (·.toJson))),
    ("field_overrides", .array (entry.fieldOverrides.map (·.toJson))),
    ("exclude_from_module", typeNamesToJson entry.excluded)]

/-- A configuration as it is read. -/
def Configuration.toJson (configuration : Configuration) : Json :=
  .object [("options", configuration.options.toJson),
    ("entries", .array (configuration.entries.map (·.toJson)))]

end Surrogates
