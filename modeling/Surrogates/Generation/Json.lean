/-
Surrogates.Generation.Json — generations as JSON, in the order in which the
plan of a run is printed.
-/
import Surrogates.Generation.Report
import Surrogates.Json.Value

namespace Surrogates

/-! ## §1 Units -/

/-- The members of an object of which some may be absent. -/
def Json.ofMembers (members : List (String × Option Json)) : Json :=
  .object (members.filterMap fun (key, value) => value.map (key, ·))

/-- The kind of a serializer as a word. -/
def SerializerKind.name : SerializerKind → String
  | explicit => "explicit"
  | derived => "derived"

/-- A serializer as JSON. -/
def Serializer.toJson (s : Serializer) : Json :=
  .object [("name", .string s.name.text), ("kind", .string s.kind.name)]

namespace Plan

mutual

/-- A plan as JSON. -/
def toJson : Plan → Json
  | native => .object [("kind", .string "native")]
  | use serializer => .object [("kind", .string "use"), ("serializer", serializer.toJson)]
  | nullable inner => .object [("kind", .string "nullable"), ("inner", inner.toJson)]
  | generic head args =>
    .object [("kind", .string "generic"), ("name", .string head.text), ("args", .array (toJsons args))]

/-- A list of plans as JSON. -/
def toJsons : List Plan → List Json
  | [] => []
  | plan :: rest => plan.toJson :: toJsons rest

end

end Plan

/-- A field of a surrogate as JSON. -/
def SurrogateField.toJson (field : SurrogateField) : Json :=
  .ofMembers [("name", some (.string field.name)), ("type", some (.string field.type.render)),
    ("attached", field.attached.map (·.toJson)), ("plan", some field.plan.toJson)]

/-- A surrogate as JSON. -/
def SurrogateType.toJson (surrogate : SurrogateType) : Json :=
  .object [("name", .string surrogate.name.text),
    ("fields", .array (surrogate.fields.map (·.toJson))),
    ("file_scope", .array (surrogate.fileScope.map (·.toJson)))]

/-- A conversion as JSON. -/
def Conversion.toJson (conversion : Conversion) : Json :=
  .object [("from", .string conversion.source.text), ("to", .string conversion.destination.text),
    ("fields", .ofStrings conversion.fields)]

/-- A serializer by way of a surrogate as JSON. -/
def MappedSerializer.toJson (s : MappedSerializer) : Json :=
  .ofMembers [("name", some (.string s.name.text)), ("to_surrogate", some s.toSurrogate.toJson),
    ("from_surrogate", some s.fromSurrogate.toJson),
    ("omitted", if s.omitted.isEmpty then none else some (.ofStrings s.omitted)),
    ("imports", some (.array (s.imports.map (·.toJson))))]

/-- A unit as JSON. -/
def SurrogateUnit.toJson (unit : SurrogateUnit) : Json :=
  .object [("target", .string unit.target.text), ("surrogate", unit.surrogate.toJson),
    ("serializer", unit.serializer.toJson)]

/-! ## §2 Modules -/

/-- A registration as JSON. -/
def Registration.toJson (pair : Registration) : Json :=
  .object [("target", .string pair.target.text), ("serializer", pair.serializer.toJson)]

/-- A module as JSON. -/
def SerializerModule.toJson (module : SerializerModule) : Json :=
  .object [("name", .string module.name), ("entry", .string module.entry),
    ("entries", .array (module.pairs.map (·.toJson)))]

/-! ## §3 Diagnostics and deferrals -/

/-- The severity as a word. -/
def Severity.name : Severity → String
  | warning => "warning"
  | error => "error"

/-- What a finding is about, as members of an object. -/
def Finding.members : Finding → List (String × Json)
  | unresolvedType target => [("kind", .string "unresolved_type"), ("target", .string target.text)]
  | noEligibleFields target =>
    [("kind", .string "no_eligible_fields"), ("target", .string target.text)]
  | duplicateClassOverride type =>
    [("kind", .string "duplicate_class_override"), ("ty", .string type.text)]
  | duplicateFieldOverride owner field =>
    [("kind", .string "duplicate_field_override"), ("owner", .string owner.text),
     ("field", .string field)]
  | missingSurrogate owner field type =>
    [("kind", .string "missing_surrogate"), ("owner", .string owner.text),
     ("field", .string field), ("ty", .string type.text)]

/-- A diagnostic as JSON. -/
def Diagnostic.toJson (d : Diagnostic) : Json :=
  .object (("entry", .string d.entry) :: ("severity", .string d.finding.severity.name)
    :: d.finding.members)

/-- A reason to wait as JSON. -/
def UnknownType.toJson (reason : UnknownType) : Json :=
  .object [("kind", .string "unknown_type"), ("owner", .string reason.owner.text),
    ("field", .string reason.field), ("ty", .string reason.type.text)]

/-- A deferral as JSON. -/
def Deferral.toJson (deferral : Deferral) : Json :=
  .object [("entry", .string deferral.entry),
    ("reasons", .array (deferral.reasons.map (·.toJson)))]

/-! ## §4 Reports -/

/-- The members that reports and generations share. -/
def reportMembers (units : List SurrogateUnit) (modules : List SerializerModule)
    (diagnostics : List Diagnostic) (deferred : List Deferral) : List (String × Option Json) :=
  [("units", some (.array (units.map (·.toJson)))),
   ("modules", some (.array (modules.map (·.toJson)))),
   ("diagnostics", some (.array (diagnostics.map (·.toJson)))),
   ("deferred", if deferred.isEmpty then none else some (.array (deferred.map (·.toJson))))]

/-- The report of a pass as JSON. -/
def PassReport.toJson (report : PassReport) : Json :=
  .ofMembers (("pass", some (.ofInt report.pass))
    :: reportMembers report.units report.modules report.diagnostics report.deferred)

/-- A generation as JSON. -/
def Generation.toJson (generation : Generation) : Json :=
  .ofMembers (("passes", some (.ofInt generation.passes))
    :: reportMembers generation.units generation.modules generation.diagnostics
      generation.deferred)

end Surrogates
