/-
Surrogates.Proofs.Catalog.Loaded — what is known of catalogs that are loaded.

A name that a document declares is a path, and the types of its fields are read back
from their own texts: `yields_sound`. Catalogs that are read can be merged, and every
name that is declared in what they come to is still a path: `Loaded.isPath`.
-/
import Surrogates.Catalog.Document
import Surrogates.Proofs.Document.Readers
import Surrogates.Proofs.TypeExpr.RoundTrip

namespace Surrogates

open Document

/-! ## §1 Declarations -/

/-- The types that are read are read back from their own texts. -/
theorem Document.yields_typeExpr :
    Yields (fun type => TypeExpr.parse type.render = .ok type) typeExpr := by
  refine yields_parsed fun text type hparse => ?_
  cases hresult : TypeExpr.parse text with
  | error problem =>
    rw [hresult] at hparse
    cases hparse
  | ok found =>
    rw [hresult] at hparse
    cases hparse
    obtain ⟨hnormal, hfits⟩ := Grammar.good_parse hresult
    exact TypeExpr.parse_render hnormal hfits

/-- A field whose type is read back from its own text. -/
def FieldDecl.Sound (decl : FieldDecl) : Prop :=
  TypeExpr.parse decl.type.render = .ok decl.type

/-- A declaration of a path whose fields have types that are read back from their own
texts. -/
structure TypeDecl.Sound (decl : TypeDecl) : Prop where
  name : TypeName.isPath decl.name.text.toList = true
  fields : ∀ field ∈ decl.fields, field.Sound

theorem FieldDecl.yields_sound : Yields FieldDecl.Sound (FieldDecl.layout.read .blank) := by
  have hfields : ∀ field ∈ FieldDecl.layout.fields,
      field.Advances fun seen decl => "type" ∈ seen → FieldDecl.Sound decl := by
    simp only [FieldDecl.layout, List.forall_mem_cons]
    refine ⟨?_, ?_, ?_, List.forall_mem_nil _⟩
    · exact Field.advances_required (yields_true _) fun _ _ _ h _ hseen => h (by simpa using hseen)
    · exact Field.advances_required yields_typeExpr fun _ _ _ _ h _ => h
    · exact Field.advances_optional (yields_true _) fun _ _ _ h _ hseen => h (by simpa using hseen)
  intro lexemes decl rest hread
  obtain ⟨seen, hsound, hrequired⟩ :=
    Layout.yields_read_of_seen hfields (fun h => nomatch h) _ _ _ hread
  exact hsound (hrequired _ (List.mem_cons_of_mem _ List.mem_cons_self) rfl)

theorem TypeDecl.yields_sound : Yields TypeDecl.Sound (TypeDecl.layout.read .blank) := by
  have hfields : ∀ field ∈ TypeDecl.layout.fields, field.Advances fun seen decl =>
      ("name" ∈ seen → TypeName.isPath decl.name.text.toList = true) ∧
        ∀ field ∈ decl.fields, FieldDecl.Sound field := by
    simp only [TypeDecl.layout, List.forall_mem_cons]
    refine ⟨?_, ?_, ?_, List.forall_mem_nil _⟩
    · exact Field.advances_required yields_typeName fun _ _ _ h hpath => ⟨fun _ => hpath, h.2⟩
    · exact Field.advances_optional (yields_true _) fun _ _ _ h _ =>
        ⟨fun hseen => h.1 (by simpa using hseen), h.2⟩
    · exact Field.advances_optional (yields_sequence FieldDecl.yields_sound) fun _ _ _ h hsound =>
        ⟨fun hseen => h.1 (by simpa using hseen), hsound⟩
  intro lexemes decl rest hread
  obtain ⟨seen, ⟨hname, hsound⟩, hrequired⟩ := Layout.yields_read_of_seen hfields
    ⟨(fun h => nomatch h), List.forall_mem_nil _⟩ _ _ _ hread
  exact ⟨hname (hrequired _ List.mem_cons_self rfl), hsound⟩

namespace Catalog

/-- What a document declares is sound. -/
theorem sound_of_read {text : String} {declared : List TypeDecl}
    (h : Document.read (layout.read []) text = .ok declared) :
    ∀ decl ∈ declared, decl.Sound := by
  have hfields : ∀ field ∈ layout.fields,
      field.Keeps fun declared => ∀ decl ∈ declared, TypeDecl.Sound decl := by
    simp only [layout, List.forall_mem_cons]
    refine ⟨?_, List.forall_mem_nil _⟩
    exact Field.keeps_required (yields_sequence TypeDecl.yields_sound) fun _ _ _ h => h
  obtain ⟨⟨found, rest⟩, hread, rfl⟩ := Except.map_eq_ok.mp h
  exact Layout.yields_read hfields (List.forall_mem_nil _) _ _ _ hread

/-! ## §2 Catalogs -/

/-- Catalogs that are read, and merged with one another. -/
inductive Loaded : Catalog → Prop where
  | empty : Loaded .empty
  | read {text : String} {catalog : Catalog} (h : Catalog.read text = .ok catalog) : Loaded catalog
  | merge {catalog other : Catalog} (h : Loaded catalog) (h' : Loaded other) :
      Loaded (catalog.merge other)

/-- A catalog of sound declarations, each under its own name. -/
def Sound (catalog : Catalog) : Prop :=
  ∀ name decl, (name, decl) ∈ catalog.types.entries → decl.name = name ∧ decl.Sound

variable {catalog other : Catalog} {name : TypeName}

theorem Sound.insertAll (h : catalog.Sound) {decls : List TypeDecl}
    (hdecls : ∀ decl ∈ decls, decl.Sound) : (catalog.insertAll decls).Sound := by
  induction decls generalizing catalog with
  | nil => exact h
  | cons first rest ih =>
    obtain ⟨hfirst, hrest⟩ := List.forall_mem_cons.mp hdecls
    refine ih (fun name decl hmem => ?_) hrest
    rcases Assoc.mem_put hmem with heq | hmem
    · cases heq
      exact ⟨rfl, hfirst⟩
    · exact h name decl hmem

theorem Sound.of_mem_toList (h : catalog.Sound) : ∀ decl ∈ catalog.toList, decl.Sound := by
  intro decl hdecl
  obtain ⟨⟨name, found⟩, hmem, rfl⟩ := List.mem_map.mp hdecl
  exact (h name found hmem).2

theorem entries_insertAll (catalog : Catalog) (decls : List TypeDecl) :
    (catalog.insertAll decls).types.entries =
      decls.foldl (fun entries decl => Assoc.put decl.name decl entries) catalog.types.entries := by
  induction decls generalizing catalog with
  | nil => rfl
  | cons first rest ih => exact ih (catalog.insert first)

/-- A catalog is told by its entries. -/
theorem eq_of_entries (h : catalog.types.entries = other.types.entries) : catalog = other := by
  obtain ⟨⟨entries, hnodup⟩⟩ := catalog
  obtain ⟨⟨entries', hnodup'⟩⟩ := other
  obtain rfl : entries = entries' := h
  rfl

/-- A sound catalog is that of its declarations. -/
theorem Sound.ofList_toList (h : catalog.Sound) : ofList catalog.toList = catalog := by
  have hnames : catalog.types.entries.foldl
      (fun entries pair => Assoc.put pair.2.name pair.2 entries) [] =
        catalog.types.entries.foldl (fun entries pair => Assoc.put pair.1 pair.2 entries) [] := by
    refine List.foldl_ext _ _ _ fun entries pair hpair => ?_
    rw [(h pair.1 pair.2 hpair).1]
  refine eq_of_entries ?_
  rw [ofList, entries_insertAll, toList, Table.values, List.foldl_map]
  refine hnames.trans ?_
  exact Assoc.foldl_put_eq_append catalog.types.nodup fun _ _ => List.not_mem_nil

theorem sound_empty : Catalog.empty.Sound :=
  fun _ _ hmem => nomatch hmem

/-- Loaded catalogs are sound. -/
theorem Loaded.sound (h : Loaded catalog) : catalog.Sound := by
  induction h with
  | empty => exact sound_empty
  | read hread =>
    obtain ⟨declared, hdeclared, rfl⟩ := Except.map_eq_ok.mp hread
    exact sound_empty.insertAll (sound_of_read hdeclared)
  | merge _ _ ih ih' => exact ih.insertAll ih'.of_mem_toList

/-- The names that loaded catalogs declare are paths. -/
theorem Loaded.isPath (h : Loaded catalog) (hdeclares : catalog.declares name = true) :
    TypeName.isPath name.text.toList = true := by
  obtain ⟨decl, hdecl⟩ := Option.isSome_iff_exists.mp hdeclares
  obtain ⟨rfl, hsound⟩ := h.sound name decl (Assoc.mem_of_get?_eq_some hdecl)
  exact hsound.name

end Catalog

end Surrogates
