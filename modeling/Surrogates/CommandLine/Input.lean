/-
Surrogates.CommandLine.Input — from the paths of a command to a generation.

Paths and patterns are replaced by the files they stand for. The catalogs are
merged in order; the configurations are joined in order under the options of
the first one, whose suffixes those of the command replace.
-/
import Surrogates.Catalog.Document
import Surrogates.CommandLine.Arguments
import Surrogates.CommandLine.Failure
import Surrogates.Generation.Pass
import Surrogates.Glob.Search

namespace Surrogates.CommandLine

variable {m : Type → Type} [Monad m] [FileSystem m]

/-! ## §1 Paths -/

/-- The paths that a path or a pattern stands for. -/
def pathsOf (text : String) : ExceptT Failure m (List String) := do
  if Glob.isGlob text then
    match Glob.parse? text with
    | none => throw (.noInput text)
    | some glob =>
      match ← (glob.search : m Glob.Found) with
      | .error (path, cause) => throw (.access path cause)
      | .ok [] => throw (.noInput text)
      | .ok paths => return paths
  else return [text]

/-- The paths that paths and patterns stand for. -/
def resolvePaths : List String → ExceptT Failure m (List String)
  | [] => return []
  | text :: rest => return (← pathsOf text) ++ (← resolvePaths rest)

/-! ## §2 Documents -/

/-- The text of an input. -/
def readFile (path : String) : ExceptT Failure m String := do
  match ← (FileSystem.read path : m (Except FileError String)) with
  | .error cause => throw (.access path cause)
  | .ok text => return text

/-- The catalog in a file. -/
def readCatalog (path : String) : ExceptT Failure m Catalog := do
  match Catalog.read (← readFile path) with
  | .error fault => throw (.fault path fault)
  | .ok catalog => return catalog

/-- The configuration in a file. -/
def readConfiguration (path : String) : ExceptT Failure m Configuration := do
  match Configuration.read (← readFile path) with
  | .error (.fault fault) => throw (.fault path fault)
  | .error (.name error) => throw (.name error)
  | .ok configuration => return configuration

/-- The catalog in files, merged into the one before them. -/
def mergeCatalogs (catalog : Catalog) : List String → ExceptT Failure m Catalog
  | [] => return catalog
  | path :: rest => do mergeCatalogs (catalog.merge (← readCatalog path)) rest

/-- A configuration with those in files behind it. -/
def extendConfiguration (configuration : Configuration) :
    List String → ExceptT Failure m Configuration
  | [] => return configuration
  | path :: rest => do
    extendConfiguration (configuration.extend (← readConfiguration path)) rest

/-- The configuration in files. -/
def joinConfigurations : List String → ExceptT Failure m Configuration
  | [] => return ⟨.standard, []⟩
  | path :: rest => do extendConfiguration (← readConfiguration path) rest

/-! ## §3 Generations -/

/-- Options with the suffixes of a command in place of their own. -/
def Command.override (command : Command) (options : Options) : Options :=
  ⟨command.surrogateSuffix.getD options.surrogateSuffix,
    command.serializerSuffix.getD options.serializerSuffix,
    command.moduleSuffix.getD options.moduleSuffix⟩

/-- The catalog and the configuration of a command. -/
def load (command : Command) : ExceptT Failure m (Catalog × Configuration) := do
  let catalog ← mergeCatalogs .empty (← resolvePaths command.catalogs)
  let joined ← joinConfigurations (← resolvePaths command.configurations)
  let configuration := { joined with options := command.override joined.options }
  match configuration.check? with
  | some error => throw (.name error)
  | none => return (catalog, configuration)

/-- The generation of a command. -/
def generate (command : Command) : ExceptT Failure m Generation := do
  let (catalog, configuration) ← load command
  return ((Generator.ofOptions configuration.options).run catalog configuration.entries).1

end Surrogates.CommandLine
