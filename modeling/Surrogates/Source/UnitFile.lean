/-
Surrogates.Source.UnitFile — the source file of a unit.

`UnitFile.of` collects what the file says: the names it imports and binds,
the fields of the surrogate, and the fields that its conversions copy. The
lines are written from that alone. A serializer is imported only if the plan
of a field names it, and never the file's own.
-/
import Surrogates.Source.Aliases
import Surrogates.Source.Lines
import Surrogates.Text.SnakeCase

namespace Surrogates.Source

/-! ## §1 What a file says -/

/-- A field of the surrogate as a file writes it. -/
structure FileField where
  name : String
  type : TypeExpr
  /-- The type that names the field's serializers, if it has any. -/
  serializedAs : Option String

/-- What the file of a unit says. -/
structure UnitFile where
  target : TypeName
  surrogate : String
  serializer : String
  /-- The imports of serializers that are attached to fields. -/
  attached : List Use
  /-- The imports of serializers that stand only inside types. -/
  inner : List Use
  fields : List FileField
  /-- The fields copied into the surrogate. -/
  copied : List String
  /-- The fields copied out of the surrogate. -/
  restored : List String
  omitted : List String

namespace UnitFile

/-- Whether a file imports a serializer: a plan names it, and it is not the
unit's own. -/
def isWanted (unit : SurrogateUnit) (serializer : Serializer) : Bool :=
  serializer.name != unit.serializer.name &&
    unit.surrogate.fields.any fun field =>
      field.plan.serializers.any (·.name == serializer.name)

/-- The imports of those serializers of a list that a file wants. -/
def uses (unit : SurrogateUnit) (aliases : Aliases) (serializers : List Serializer) : List Use :=
  (serializers.filter (isWanted unit)).filterMap fun s => Use.of? aliases s.name

/-- A field of the surrogate as a file writes it. -/
def field (aliases : Aliases) (field : SurrogateField) : FileField :=
  ⟨field.name, field.type,
    if field.plan.isNative then none else some (renderPlan aliases field.plan)⟩

/-- What the file of a unit says. -/
def of (unit : SurrogateUnit) : UnitFile :=
  let aliases := Aliases.ofUnit unit
  let fileScope := unit.surrogate.fileScope
  { target := unit.target
    surrogate := unit.surrogate.name.simple
    serializer := unit.serializer.name.simple
    attached := uses unit aliases (unit.serializer.imports.filter (!fileScope.contains ·))
    inner := uses unit aliases fileScope
    fields := unit.surrogate.fields.map (field aliases)
    copied := unit.serializer.toSurrogate.fields
    restored := unit.serializer.fromSurrogate.fields
    omitted := unit.serializer.omitted }

/-! ## §2 Its lines -/

variable (file : UnitFile)

/-- The imports, in two blocks with empty lines before them. -/
def useLines : List String :=
  (if file.attached.isEmpty then [] else "" :: file.attached.map (line 0 ·.render))
    ++ (if file.inner.isEmpty then []
      else "" :: "// used inside generic arguments only" :: file.inner.map (line 0 ·.render))

/-- The lines of a field. -/
def fieldLines (field : FileField) : List String :=
  (field.serializedAs.map fun type => line 1 ("#[serde_as(as = \"" ++ type ++ "\")]")).toList
    ++ [line 1 ("pub " ++ field.name ++ ": " ++ field.type.render ++ ",")]

/-- The declaration of the surrogate. -/
def surrogateLines : List String :=
  ["#[::serde_with::serde_as]", "#[derive(::serde::Serialize, ::serde::Deserialize)]",
    line 0 ("#[serde(rename = \"" ++ file.target.simple ++ "\")]")]
    ++ braced 0 ("pub struct " ++ file.surrogate) (file.fields.flatMap fieldLines)

/-- A conversion from one type to another, by the lines of its fields. -/
def conversionLines (source destination : String) (fields : List String) : List String :=
  braced 0 ("impl ::core::convert::From<" ++ source ++ "> for " ++ destination)
    (braced 1 ("fn from(value: " ++ source ++ ") -> Self")
      (braced 2 "Self" (fields.map (line 3))))

/-- The conversion from the target to the surrogate. -/
def copyLines : List String :=
  conversionLines ("&" ++ file.target.text) file.surrogate
    (file.copied.map fun field =>
      field ++ ": ::core::clone::Clone::clone(&value." ++ field ++ "),")

/-- The conversion from the surrogate to the target; omitted fields have their
defaults. -/
def restoreLines : List String :=
  conversionLines file.surrogate file.target.text
    (file.restored.map (fun field => field ++ ": value." ++ field ++ ",")
      ++ if file.omitted.isEmpty then []
        else
          ["// not mirrored: " ++ ", ".intercalate file.omitted,
            "..::core::default::Default::default()"])

/-- The serialization by way of the surrogate. -/
def serializeLines : List String :=
  braced 0
    ("impl ::serde_with::SerializeAs<" ++ file.target.text ++ "> for " ++ file.serializer)
    ([line 1 ("fn serialize_as<S>(source: &" ++ file.target.text
        ++ ", serializer: S) -> ::core::result::Result<S::Ok, S::Error>"),
      line 1 "where", line 1 "    S: ::serde::Serializer,", line 1 "\x7b",
      line 2 ("::serde::Serialize::serialize(&" ++ file.surrogate
        ++ "::from(source), serializer)"),
      line 1 "\x7d"])

/-- The deserialization by way of the surrogate. -/
def deserializeLines : List String :=
  braced 0
    ("impl<'de> ::serde_with::DeserializeAs<'de, " ++ file.target.text ++ "> for "
      ++ file.serializer)
    ([line 1 ("fn deserialize_as<D>(deserializer: D) -> ::core::result::Result<"
        ++ file.target.text ++ ", D::Error>"),
      line 1 "where", line 1 "    D: ::serde::Deserializer<'de>,", line 1 "\x7b",
      line 2 ("<" ++ file.surrogate
        ++ " as ::serde::Deserialize>::deserialize(deserializer).map(::core::convert::Into::into)"),
      line 1 "\x7d"])

/-- The lines of the file. -/
def lines : List String :=
  line 0 ("// @generated by surrogate-gen from `" ++ file.target.text ++ "`. Do not edit.")
    :: file.useLines
    ++ "" :: file.surrogateLines
    ++ "" :: file.copyLines
    ++ "" :: file.restoreLines
    ++ "" :: line 0 ("pub struct " ++ file.serializer ++ ";")
    :: "" :: file.serializeLines
    ++ "" :: file.deserializeLines

/-- The path of the file. -/
def path : String :=
  Text.snakeCase file.surrogate ++ ".rs"

end UnitFile

/-- The source file of a unit. -/
def File.ofUnit (unit : SurrogateUnit) : File :=
  let file := UnitFile.of unit
  ⟨file.path, joinLines file.lines⟩

end Surrogates.Source
