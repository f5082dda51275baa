/-
Surrogates.Configuration.Basic — what is to be generated.

A configuration has options, which are suffixes of generated names, and
entries. An entry lists target types, serializers that replace others for
whole types or for single fields, and types that its module leaves out.
`check?` finds the first name that is refused.
-/
import Surrogates.NameError
import Surrogates.TypeName.Basic

namespace Surrogates

/-! ## §1 Types -/

/-- The suffixes of generated names. -/
structure Options where
  surrogateSuffix : String
  serializerSuffix : String
  moduleSuffix : String
  deriving DecidableEq, Repr

/-- The usual suffixes. -/
def Options.standard : Options := ⟨"Surrogate", "Serializer", "Module"⟩

instance : Inhabited Options := ⟨.standard⟩

/-- A serializer for all values of a type. -/
structure ClassOverride where
  type : TypeName
  serializer : TypeName
  deriving DecidableEq, Repr, Inhabited

/-- A serializer for one field. -/
structure FieldOverride where
  field : String
  serializer : TypeName
  deriving DecidableEq, Repr, Inhabited

/-- The serializers for fields of one type. -/
structure FieldOverrides where
  type : TypeName
  fields : List FieldOverride
  deriving DecidableEq, Repr, Inhabited

/-- An entry of a configuration. -/
structure Entry where
  name : String
  targets : List TypeName
  classOverrides : List ClassOverride
  fieldOverrides : List FieldOverrides
  excluded : List TypeName
  deriving DecidableEq, Repr, Inhabited

/-- Options and entries. -/
structure Configuration where
  options : Options
  entries : List Entry
  deriving DecidableEq, Repr, Inhabited

/-! ## §2 Building entries -/

namespace Entry

/-- The entry that lists nothing. -/
def named (name : String) : Entry := ⟨name, [], [], [], []⟩

/-- Adds a target. -/
def target (entry : Entry) (type : TypeName) : Entry :=
  { entry with targets := entry.targets ++ [type] }

/-- Adds a serializer for a type. -/
def overrideClass (entry : Entry) (type serializer : TypeName) : Entry :=
  { entry with classOverrides := entry.classOverrides ++ [⟨type, serializer⟩] }

/-- Adds a serializer for a field to the first group of its type, or in a new
group at the end. -/
def addFieldOverride (type : TypeName) (decl : FieldOverride) :
    List FieldOverrides → List FieldOverrides
  | [] => [⟨type, [decl]⟩]
  | group :: rest =>
    if group.type = type then { group with fields := group.fields ++ [decl] } :: rest
    else group :: addFieldOverride type decl rest

/-- Adds a serializer for a field. -/
def overrideField (entry : Entry) (type : TypeName) (field : String) (serializer : TypeName) :
    Entry :=
  { entry with fieldOverrides := addFieldOverride type ⟨field, serializer⟩ entry.fieldOverrides }

/-- Adds a type that the module leaves out. -/
def exclude (entry : Entry) (type : TypeName) : Entry :=
  { entry with excluded := entry.excluded ++ [type] }

end Entry

/-! ## §3 Names -/

/-- Whether a text is an identifier of ASCII. -/
def isIdentifier (text : String) : Bool :=
  Text.Identifier.isWord text.toList

/-- The refusal of a text that is no identifier. -/
def checkIdentifier? (kind : NameKind) (text : String) : Option NameError :=
  if isIdentifier text then none else some ⟨kind, text⟩

/-- The first suffix that is refused. -/
def Options.check? (options : Options) : Option NameError :=
  checkIdentifier? .surrogateSuffix options.surrogateSuffix
    <|> checkIdentifier? .serializerSuffix options.serializerSuffix
    <|> checkIdentifier? .moduleSuffix options.moduleSuffix

/-- The first name of an entry that is refused: its own or that of a field. -/
def Entry.check? (entry : Entry) : Option NameError :=
  checkIdentifier? .entry entry.name
    <|> (entry.fieldOverrides.flatMap (·.fields)).findSome? (checkIdentifier? .field ·.field)

namespace Configuration

/-- The first name of a configuration that is refused, options first. -/
def check? (configuration : Configuration) : Option NameError :=
  configuration.options.check? <|> configuration.entries.findSome? (·.check?)

/-- Adds the entries of another configuration; its options are left out. -/
def extend (configuration other : Configuration) : Configuration :=
  { configuration with entries := configuration.entries ++ other.entries }

end Configuration

end Surrogates
