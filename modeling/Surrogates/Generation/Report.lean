/-
Surrogates.Generation.Report — what a pass reports, and what a run gathers.

A diagnostic is about one entry. An entry whose types are not all known is
deferred, with the reasons. A generation gathers the reports of its passes:
units, modules and diagnostics add up, and the deferred entries are those of
the last pass.
-/
import Surrogates.Registration
import Surrogates.Unit.Basic

namespace Surrogates

/-! ## §1 Diagnostics -/

/-- How serious a diagnostic is. -/
inductive Severity where
  | warning
  | error
  deriving DecidableEq, Repr

/-- What a diagnostic is about. -/
inductive Finding where
  /-- A target is not declared and is left out. -/
  | unresolvedType (target : TypeName)
  /-- A target has no eligible fields and is left out. -/
  | noEligibleFields (target : TypeName)
  /-- A type has a second override; the entry is left out. -/
  | duplicateClassOverride (type : TypeName)
  /-- A field has a second override; the entry is left out. -/
  | duplicateFieldOverride (owner : TypeName) (field : String)
  /-- A field needs the derived serializer of a type for which this run
  generates none. -/
  | missingSurrogate (owner : TypeName) (field : String) (type : TypeName)
  deriving DecidableEq, Repr

/-- A field of a type, in words. -/
def quoteField (owner : TypeName) (field : String) : String :=
  "`" ++ owner.text ++ "." ++ field ++ "`"

/-- The finding in words. -/
def Finding.message : Finding → String
  | unresolvedType target => "target type `" ++ target.text ++ "` not found"
  | noEligibleFields target =>
    "`" ++ target.text ++ "` has no public fields; no surrogate generated"
  | duplicateClassOverride type => "`" ++ type.text ++ "` is overridden more than once"
  | duplicateFieldOverride owner field =>
    "field " ++ quoteField owner field ++ " is overridden more than once"
  | missingSurrogate owner field type =>
    quoteField owner field ++ " uses the derived serializer of `" ++ type.text
      ++ "`, which no entry generates"

/-- Whether a finding leaves something out that was asked for. -/
def Finding.severity : Finding → Severity
  | unresolvedType _ => .error
  | noEligibleFields _ => .warning
  | duplicateClassOverride _ => .error
  | duplicateFieldOverride _ _ => .error
  | missingSurrogate _ _ _ => .warning

/-- A finding about an entry. -/
structure Diagnostic where
  entry : String
  finding : Finding
  deriving DecidableEq, Repr

/-- The diagnostic in words. -/
def Diagnostic.message (d : Diagnostic) : String :=
  "[" ++ d.entry ++ "] " ++ d.finding.message

/-! ## §2 Deferrals -/

/-- A field whose type mentions a type that is not known. -/
structure UnknownType where
  owner : TypeName
  field : String
  type : TypeName
  deriving DecidableEq, Repr

/-- The reason in words. -/
def UnknownType.message (reason : UnknownType) : String :=
  quoteField reason.owner reason.field ++ " uses unknown type `" ++ reason.type.text ++ "`"

/-- An entry that waits for types to become known. -/
structure Deferral where
  entry : String
  reasons : List UnknownType
  deriving DecidableEq, Repr

/-- The deferral in words. -/
def Deferral.message (deferral : Deferral) : String :=
  deferral.entry ++ " (" ++ ", ".intercalate (deferral.reasons.map (·.message)) ++ ")"

/-! ## §3 Reports -/

/-- What one pass produced. -/
structure PassReport where
  pass : Nat
  units : List SurrogateUnit
  modules : List SerializerModule
  diagnostics : List Diagnostic
  deferred : List Deferral
  deriving Inhabited

/-- What the passes of a run produced together. -/
structure Generation where
  passes : Nat
  units : List SurrogateUnit
  modules : List SerializerModule
  diagnostics : List Diagnostic
  deferred : List Deferral
  deriving Inhabited

namespace Generation

/-- The generation before any pass. -/
def empty : Generation := ⟨0, [], [], [], []⟩

/-- Adds the report of a later pass; its deferred entries replace those before. -/
def absorb (generation : Generation) (report : PassReport) : Generation where
  passes := max generation.passes report.pass
  units := generation.units ++ report.units
  modules := generation.modules ++ report.modules
  diagnostics := generation.diagnostics ++ report.diagnostics
  deferred := report.deferred

/-- The entries that are deferred, by name. -/
def pending (generation : Generation) (entries : List Entry) : List Entry :=
  entries.filter fun entry => generation.deferred.any (·.entry == entry.name)

/-- Whether no entry is deferred. -/
def isResolved (generation : Generation) : Bool :=
  generation.deferred.isEmpty

end Generation

/-- The entries that are still deferred, in words. -/
def unresolvedMessage (deferred : List Deferral) : String :=
  (match deferred with
    | [_] => "1 configuration entry"
    | deferred => toString deferred.length ++ " configuration entries")
    ++ " still unresolved: " ++ "; ".intercalate (deferred.map (·.message))

end Surrogates
