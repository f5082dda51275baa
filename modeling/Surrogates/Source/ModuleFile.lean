/-
Surrogates.Source.ModuleFile — the source file of a module, and all files of
a generation.
-/
import Surrogates.Generation.Report
import Surrogates.Source.UnitFile

namespace Surrogates.Source

/-- The line of a registration. -/
def pairLine (pair : Registration) : String :=
  line 1 ("(\"" ++ pair.target.text ++ "\", \"" ++ pair.serializer.name.text ++ "\"),")

/-- The name of the list of a module's registrations. -/
def staticName (name : String) : String :=
  Text.LetterCase.upperText (Text.snakeCase name)

/-- The lines of a module's file. -/
def moduleLines (spec : SerializerModule) : List String :=
  [line 0 ("// @generated by surrogate-gen for configuration `" ++ spec.entry ++ "`. Do not edit."),
   "",
   line 0 ("/// `(type, serializer)` pairs registered by `" ++ spec.entry
     ++ "`, in registration order."),
   line 0 ("pub static " ++ staticName spec.name ++ ": &[(&str, &str)] = &[")]
    ++ spec.pairs.map pairLine ++ [line 0 "];"]

/-- The source file of a module. -/
def File.ofModule (spec : SerializerModule) : File :=
  ⟨Text.snakeCase spec.name ++ ".rs", joinLines (moduleLines spec)⟩

/-- The source files of a generation: those of its units, then those of its
modules. -/
def files (generation : Generation) : List File :=
  generation.units.map File.ofUnit ++ generation.modules.map File.ofModule

end Surrogates.Source
