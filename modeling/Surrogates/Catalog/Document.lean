/-
Surrogates.Catalog.Document — catalogs as JSON documents.

A catalog document lists declarations under `types`. `Catalog.read` reads
one, and `TypeDecl.toJson` writes a declaration in the form that is read.
-/
import Surrogates.Catalog.Basic
import Surrogates.Document.Names

namespace Surrogates

open Document

/-! ## §1 Reading -/

/-- The visibilities by their names in documents. -/
def Visibility.names : List (String × Visibility) :=
  [("pub", .exported), ("pub(crate)", .internal), ("restricted", .restricted), ("private", .hidden)]

/-- How a field is declared. -/
def FieldDecl.layout : Layout FieldDecl where
  name := "FieldDecl"
  strict := false
  fields :=
    [.required "name" string fun decl name => { decl with name },
     .required "type" typeExpr fun decl type => { decl with type },
     .optional "visibility" (enumeration Visibility.names)
       fun decl visibility => { decl with visibility }]

/-- A field before anything is read of it: visible everywhere. -/
def FieldDecl.blank : FieldDecl := ⟨"", default, .exported⟩

/-- How a type is declared. -/
def TypeDecl.layout : Layout TypeDecl where
  name := "TypeDecl"
  strict := false
  fields :=
    [.required "name" typeName fun decl name => { decl with name },
     .optional "native_serializable" boolean fun decl native => { decl with native },
     .optional "fields" (sequence (FieldDecl.layout.read .blank))
       fun decl fields => { decl with fields }]

/-- A type before anything is read of it: not native and without fields. -/
def TypeDecl.blank : TypeDecl := ⟨default, false, []⟩

/-- How a catalog is written. -/
def Catalog.layout : Layout (List TypeDecl) where
  name := "CatalogFile"
  strict := false
  fields := [.required "types" (sequence (TypeDecl.layout.read .blank)) fun _ types => types]

/-- The catalog that a text declares. -/
def Catalog.read (text : String) : Except Fault Catalog :=
  (Document.read (Catalog.layout.read []) text).map Catalog.ofList

/-! ## §2 Writing -/

/-- The name of a visibility in documents. -/
def Visibility.name : Visibility → String
  | exported => "pub"
  | internal => "pub(crate)"
  | restricted => "restricted"
  | hidden => "private"

/-- A declared field as it is read. -/
def FieldDecl.toJson (decl : FieldDecl) : Json :=
  .object [("name", .string decl.name), ("type", .string decl.type.render),
    ("visibility", .string decl.visibility.name)]

/-- A declared type as it is read. -/
def TypeDecl.toJson (decl : TypeDecl) : Json :=
  .object [("name", .string decl.name.text), ("native_serializable", .bool decl.native),
    ("fields", .array (decl.fields.map FieldDecl.toJson))]

end Surrogates
