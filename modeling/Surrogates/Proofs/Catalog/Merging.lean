/-
Surrogates.Proofs.Catalog.Merging — catalogs that are merged.

A catalog is merged into another one declaration by declaration, after the names
that come up twice in it have been settled. That this is as good as declaring
everything in one list (`merge_ofList`) rests on the tables: pairs may be put
together before they are put behind others. So merges can be grouped in any way
(`Merging.catalog_eq`), and what a catalog says of a name is what the last
declaration of the name says (`merged_as_declared`).
-/
import Surrogates.Proofs.Catalog.Loaded
import Surrogates.Proofs.Table.Insertions

namespace Surrogates

namespace Catalog

/-! ## §1 Declarations in one list -/

/-- The last declaration of a name. -/
def lastOf? (name : TypeName) (decls : List TypeDecl) : Option TypeDecl :=
  decls.reverse.find? (·.name == name)

/-- Declarations under their names. -/
def named (decls : List TypeDecl) : List (TypeName × TypeDecl) :=
  decls.map fun decl => (decl.name, decl)

theorem entries_insertAll_named (catalog : Catalog) (decls : List TypeDecl) :
    (catalog.insertAll decls).types.entries =
      (named decls).foldl (fun table (name, decl) => Assoc.put name decl table)
        catalog.types.entries := by
  rw [entries_insertAll, named, List.foldl_map]

theorem entries_ofList (decls : List TypeDecl) :
    (ofList decls).types.entries = Assoc.ofList (named decls) :=
  entries_insertAll_named empty decls

theorem get?_named (name : TypeName) (decls : List TypeDecl) :
    Assoc.get? name (named decls) = decls.find? (·.name == name) := by
  induction decls with
  | nil => rfl
  | cons first rest ih =>
    have hget : Assoc.get? name (named (first :: rest)) =
        if first.name = name then some first else Assoc.get? name (named rest) := rfl
    rw [hget, ih, List.find?_cons]
    by_cases h : first.name = name
    · rw [if_pos h, beq_iff_eq.mpr h]
    · rw [if_neg h, beq_eq_false_iff_ne.mpr h]

theorem find?_ofList (name : TypeName) (decls : List TypeDecl) :
    (ofList decls).find? name = lastOf? name decls := by
  have hget : (ofList decls).find? name = Assoc.get? name (ofList decls).types.entries := rfl
  rw [hget, entries_ofList, Assoc.get?_ofList, named, ← List.map_reverse, lastOf?]
  exact get?_named name decls.reverse

theorem size_ofList (decls : List TypeDecl) :
    (ofList decls).size = (decls.map (·.name)).eraseDups.length := by
  have hsize : (ofList decls).size = (Assoc.keys (ofList decls).types.entries).length :=
    (List.length_map _).symm
  rw [hsize, entries_ofList, Assoc.keys_ofList, Assoc.keys, named, List.map_map]
  rfl

/-! ## §2 Merges -/

/-- What is left of a list of declarations stands under its own names. -/
theorem named_toList_ofList (decls : List TypeDecl) :
    named (ofList decls).toList = (ofList decls).types.entries := by
  rw [named, toList, Table.values, List.map_map]
  refine (List.map_congr_left fun pair hpair => ?_).trans (List.map_id _)
  rw [entries_ofList] at hpair
  obtain ⟨decl, -, rfl⟩ := List.mem_map.mp (Assoc.mem_of_mem_ofList hpair)
  rfl

/-- A merge of lists is their concatenation. -/
theorem merge_ofList (first second : List TypeDecl) :
    (ofList first).merge (ofList second) = ofList (first ++ second) := by
  have happend : ofList (first ++ second) = (ofList first).insertAll second := List.foldl_append
  refine happend ▸ eq_of_entries ?_
  rw [merge, entries_insertAll_named, named_toList_ofList, entries_ofList second,
    Assoc.foldl_put_ofList _ (ofList first).types.nodup, entries_insertAll_named]

/-- Merging from left to right, behind declarations that are there. -/
theorem foldl_merge_ofList (decls : List TypeDecl) (sources : List (List TypeDecl)) :
    (sources.map ofList).foldl merge (ofList decls) = ofList (decls ++ sources.flatten) := by
  induction sources generalizing decls with
  | nil => rw [List.map_nil, List.foldl_nil, List.flatten_nil, List.append_nil]
  | cons first rest ih =>
    rw [List.map_cons, List.foldl_cons, merge_ofList, ih, List.flatten_cons, List.append_assoc]

/-! ## §3 Groupings -/

/-- Lists of declarations, and the merges that bring them together. -/
inductive Merging where
  | source (decls : List TypeDecl)
  | merge (first second : Merging)

namespace Merging

/-- The catalog that the merges come to. -/
def catalog : Merging → Catalog
  | source decls => .ofList decls
  | merge first second => first.catalog.merge second.catalog

/-- The lists from left to right. -/
def sources : Merging → List (List TypeDecl)
  | source decls => [decls]
  | merge first second => first.sources ++ second.sources

/-- A grouping comes to what its lists declare one after another. -/
theorem catalog_eq (merging : Merging) : merging.catalog = .ofList merging.sources.flatten := by
  induction merging with
  | source decls => rw [catalog, sources, List.flatten_singleton]
  | merge first second ih ih' =>
    rw [catalog, sources, ih, ih', merge_ofList, List.flatten_append]

end Merging

/-! ## §4 Answers -/

/-- What a catalog says of a name, if `last` is what there is to say. -/
structure Answers (catalog : Catalog) (name : TypeName) (last : Option TypeDecl) : Prop where
  find? : catalog.find? name = last
  declares : catalog.declares name = last.isSome
  fields? : catalog.fields? name = last.map (·.fields)
  isNative : catalog.isNative name = last.any (·.native)

/-- All that is said of a name comes from its declaration. -/
theorem answers_find? (catalog : Catalog) (name : TypeName) :
    catalog.Answers name (catalog.find? name) where
  find? := rfl
  declares := rfl
  fields? := rfl
  isNative := by
    unfold isNative
    cases catalog.find? name <;> rfl

/-- **Merging lists of declarations from left to right comes to the catalog of the
concatenated list: it answers for every name as the last declaration of the name does,
and counts the names that are declared. However the merges are grouped, they come to
the same.** -/
theorem merged_as_declared (sources : List (List TypeDecl)) :
    let merged := (sources.map ofList).foldl merge empty
    let declared := sources.flatten
    merged = ofList declared ∧
      (∀ name, merged.Answers name (lastOf? name declared)) ∧
      merged.size = (declared.map (·.name)).eraseDups.length ∧
      ∀ merging : Merging, merging.catalog = (merging.sources.map ofList).foldl merge empty := by
  have hmerged : ∀ sources : List (List TypeDecl),
      (sources.map ofList).foldl merge empty = ofList sources.flatten :=
    foldl_merge_ofList []
  refine ⟨hmerged sources, fun name => ?_, ?_, fun merging => ?_⟩
  · rw [hmerged, ← find?_ofList]
    exact answers_find? _ _
  · rw [hmerged, size_ofList]
  · rw [hmerged, merging.catalog_eq]

end Catalog

end Surrogates
