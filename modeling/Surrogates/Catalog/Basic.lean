/-
Surrogates.Catalog.Basic — declared types.

A catalog holds declarations by name, in order of first declaration; a later
declaration of a name replaces the earlier one in its place. What is known of
a type is asked through `find?`, `fields?`, `declares` and `isNative`.
-/
import Surrogates.Table.Basic
import Surrogates.TypeExpr.Basic

namespace Surrogates

/-! ## §1 Declarations -/

/-- Where a field can be seen. -/
inductive Visibility where
  /-- Everywhere. -/
  | exported
  /-- In the whole crate. -/
  | internal
  /-- In a part of the crate. -/
  | restricted
  /-- Only where its type is declared. -/
  | hidden
  deriving DecidableEq, Repr, Inhabited

/-- Whether a surrogate has a field of this visibility. -/
def Visibility.isEligible : Visibility → Bool
  | exported => true
  | internal => true
  | restricted => false
  | hidden => false

/-- A declared field. -/
structure FieldDecl where
  name : String
  type : TypeExpr
  visibility : Visibility
  deriving DecidableEq, Inhabited

/-- A declared type. -/
structure TypeDecl where
  name : TypeName
  /-- Whether the type serializes by itself. -/
  native : Bool
  fields : List FieldDecl
  deriving DecidableEq, Inhabited

/-- The fields that a surrogate of the type has. -/
def TypeDecl.eligible (decl : TypeDecl) : List FieldDecl :=
  decl.fields.filter (·.visibility.isEligible)

/-! ## §2 Catalogs -/

/-- Declarations by name. -/
structure Catalog where
  types : Table TypeName TypeDecl
  deriving Inhabited

namespace Catalog

/-- The catalog without declarations. -/
def empty : Catalog := ⟨∅⟩

/-- Adds a declaration, in place of one of the same name. -/
def insert (catalog : Catalog) (decl : TypeDecl) : Catalog :=
  ⟨catalog.types.insert decl.name decl⟩

/-- Adds declarations one after another. -/
def insertAll (catalog : Catalog) (decls : List TypeDecl) : Catalog :=
  decls.foldl insert catalog

/-- The catalog of a list of declarations. -/
def ofList (decls : List TypeDecl) : Catalog :=
  empty.insertAll decls

/-- The declarations in order. -/
def toList (catalog : Catalog) : List TypeDecl :=
  catalog.types.values

/-- Adds the declarations of another catalog. -/
def merge (catalog other : Catalog) : Catalog :=
  catalog.insertAll other.toList

/-- The declaration of a name. -/
def find? (catalog : Catalog) (name : TypeName) : Option TypeDecl :=
  catalog.types.get? name

/-- Whether a name is declared. -/
def declares (catalog : Catalog) (name : TypeName) : Bool :=
  catalog.types.contains name

/-- The fields of a declared type. -/
def fields? (catalog : Catalog) (name : TypeName) : Option (List FieldDecl) :=
  (catalog.find? name).map (·.fields)

/-- Whether a name is declared to serialize by itself. -/
def isNative (catalog : Catalog) (name : TypeName) : Bool :=
  match catalog.find? name with
  | some decl => decl.native
  | none => false

/-- The fields of a type that its surrogate has; none if it is not declared. -/
def eligible (catalog : Catalog) (name : TypeName) : List FieldDecl :=
  match catalog.find? name with
  | some decl => decl.eligible
  | none => []

theorem mem_eligible {catalog : Catalog} {name : TypeName} {field : FieldDecl} :
    field ∈ catalog.eligible name ↔
      ∃ decl, catalog.find? name = some decl ∧ field ∈ decl.fields ∧
        field.visibility.isEligible = true := by
  unfold eligible
  cases catalog.find? name with
  | none => simp
  | some decl => simp [TypeDecl.eligible, List.mem_filter]

/-- The number of declared names. -/
def size (catalog : Catalog) : Nat :=
  catalog.types.size

/-- Whether nothing is declared. -/
def isEmpty (catalog : Catalog) : Bool :=
  catalog.types.isEmpty

end Catalog

end Surrogates
