/-
Surrogates.Proofs.Document.RoundTrip — documents that are read back.

Every part of a catalog or a configuration is written as an object of all its fields,
with the names of types and serializers as they are and types by their texts. So sound
declarations (`TypeDecl.reads_toJson`) and sound configurations
(`Configuration.reads_toJson`) are read as they were written, and what a document gives
is sound. What was read can be written and read again: `documents_read_back`.
-/
import Surrogates.Proofs.Catalog.Loaded
import Surrogates.Proofs.Configuration.Loaded
import Surrogates.Proofs.Document.Writing

namespace Surrogates

open Document

/-! ## §1 Catalogs -/

theorem FieldDecl.reads_toJson {decl : FieldDecl} (h : decl.Sound) :
    Reads (layout.read .blank) decl.toJson decl := by
  have hvisibility : Visibility.names.lookup decl.visibility.name = some decl.visibility := by
    cases decl.visibility <;> rfl
  refine Layout.reads_object ?_
  refine .cons rfl (by decide) ((reads_string _).required _) ?_
  refine .cons rfl (by decide) ((reads_typeExpr h).required _) ?_
  refine .cons rfl (by decide) ((reads_enumeration hvisibility).optional _) ?_
  exact .nil (by simp [layout, Field.required, Field.optional])

theorem TypeDecl.reads_toJson {decl : TypeDecl} (h : decl.Sound) :
    Reads (layout.read .blank) decl.toJson decl := by
  refine Layout.reads_object ?_
  refine .cons rfl (by decide) ((reads_typeName h.name).required _) ?_
  refine .cons rfl (by decide) ((reads_boolean _).optional _) ?_
  refine .cons rfl (by decide)
    ((reads_sequence fun field hfield => FieldDecl.reads_toJson (h.fields field hfield)).optional _) ?_
  exact .nil (by simp [layout, Field.required, Field.optional])

/-- A catalog document of some declarations. -/
def Catalog.toJson (decls : List TypeDecl) : Json :=
  .object [("types", .array (decls.map (·.toJson)))]

theorem Catalog.reads_toJson {decls : List TypeDecl} (h : ∀ decl ∈ decls, decl.Sound) :
    Reads (layout.read []) (toJson decls) decls := by
  refine Layout.reads_object ?_
  refine .cons rfl (by decide)
    ((reads_sequence fun decl hdecl => TypeDecl.reads_toJson (h decl hdecl)).required _) ?_
  exact .nil (by simp [layout, Field.required])

/-! ## §2 Configurations -/

theorem Options.reads_toJson (options : Options) :
    Reads (layout.read .standard) options.toJson options := by
  refine Layout.reads_object ?_
  refine .cons rfl (by decide) ((reads_string _).optional _) ?_
  refine .cons rfl (by decide) ((reads_string _).optional _) ?_
  refine .cons rfl (by decide) ((reads_string _).optional _) ?_
  exact .nil (by simp [layout, Field.optional])

theorem reads_typeNamesToJson {names : List TypeName}
    (h : ∀ name ∈ names, TypeName.isPath name.text.toList = true) :
    Reads (sequence typeName) (typeNamesToJson names) names := by
  have hnames := reads_sequence fun name hname => reads_typeName (h name hname)
  rwa [typeNamesToJson, Json.ofStrings, List.map_map]

theorem ClassOverride.reads_toJson {decl : ClassOverride} (h : decl.Sound) :
    Reads (layout.read default) decl.toJson decl := by
  refine Layout.reads_object ?_
  refine .cons rfl (by decide) ((reads_typeName h.type).required _) ?_
  refine .cons rfl (by decide) ((reads_typeName h.serializer).required _) ?_
  exact .nil (by simp [layout, Field.required])

theorem FieldOverride.reads_toJson {decl : FieldOverride} (h : decl.Sound) :
    Reads (layout.read default) decl.toJson decl := by
  refine Layout.reads_object ?_
  refine .cons rfl (by decide) ((reads_string _).required _) ?_
  refine .cons rfl (by decide) ((reads_typeName h).required _) ?_
  exact .nil (by simp [layout, Field.required])

theorem FieldOverrides.reads_toJson {group : FieldOverrides} (h : group.Sound) :
    Reads (layout.read default) group.toJson group := by
  refine Layout.reads_object ?_
  refine .cons rfl (by decide) ((reads_typeName h.type).required _) ?_
  refine .cons rfl (by decide)
    ((reads_sequence fun decl hdecl => FieldOverride.reads_toJson (h.fields decl hdecl)).required _) ?_
  exact .nil (by simp [layout, Field.required])

theorem Entry.reads_toJson {entry : Entry} (h : entry.Sound) :
    Reads (layout.read (.named "")) entry.toJson entry := by
  have hclasses := reads_sequence fun decl hdecl =>
    ClassOverride.reads_toJson (h.classOverrides decl hdecl)
  have hfields := reads_sequence fun group hgroup =>
    FieldOverrides.reads_toJson (h.fieldOverrides group hgroup)
  refine Layout.reads_object ?_
  refine .cons rfl (by decide) ((reads_string _).required _) ?_
  refine .cons rfl (by decide) ((reads_typeNamesToJson h.targets).required _) ?_
  refine .cons rfl (by decide) (hclasses.optional _) ?_
  refine .cons rfl (by decide) (hfields.optional _) ?_
  refine .cons rfl (by decide) ((reads_typeNamesToJson h.excluded).optional _) ?_
  exact .nil (by simp [layout, Field.required, Field.optional])

theorem Configuration.reads_toJson {configuration : Configuration}
    (h : ∀ entry ∈ configuration.entries, entry.Sound) :
    Reads (layout.read ⟨.standard, []⟩) configuration.toJson configuration := by
  have hentries := reads_sequence fun entry hentry => Entry.reads_toJson (h entry hentry)
  refine Layout.reads_object ?_
  refine .cons rfl (by decide) ((Options.reads_toJson _).optional _) ?_
  refine .cons rfl (by decide) (hentries.required _) ?_
  exact .nil (by simp [layout, Field.required, Field.optional])

/-! ## §3 Reading back -/

/-- Both texts of a value: without blanks, and on lines. -/
def Json.texts (value : Json) : List String := [value.render, value.pretty]

/-- What is read as it was written is read back from both texts. -/
theorem Document.Reads.of_mem_texts {α : Type} {reader : Reader α} {value : Json} {a : α}
    (h : Reads reader value a) : ∀ text ∈ value.texts, Document.read reader text = .ok a := by
  intro text htext
  simp only [Json.texts, List.mem_cons, List.not_mem_nil, or_false] at htext
  rcases htext with rfl | rfl
  · exact h.read_render
  · exact h.read_pretty

theorem Catalog.read_toJson {decls : List TypeDecl} (h : ∀ decl ∈ decls, decl.Sound) :
    ∀ text ∈ (toJson decls).texts, Catalog.read text = .ok (.ofList decls) := by
  intro text htext
  rw [Catalog.read, (reads_toJson h).of_mem_texts text htext]
  rfl

/-- A sound configuration of which no name is refused is read back. -/
theorem Configuration.read_toJson {configuration : Configuration}
    (h : ∀ entry ∈ configuration.entries, entry.Sound) (hnames : configuration.check? = none) :
    ∀ text ∈ configuration.toJson.texts, Configuration.read text = .ok configuration :=
  fun text htext => read_eq_ok.mpr ⟨(reads_toJson h).of_mem_texts text htext, hnames⟩

/-- **Documents survive.** Of the declarations that a catalog document holds, any are
written as a document that holds just these, and a catalog that was read is read back as
a whole. A configuration that was read passes again and is the same. -/
theorem documents_read_back :
    (∀ text declared, Document.read (Catalog.layout.read []) text = .ok declared →
      ∀ decls ⊆ declared, ∀ again ∈ (Catalog.toJson decls).texts,
        Document.read (Catalog.layout.read []) again = .ok decls ∧
          Catalog.read again = .ok (.ofList decls)) ∧
    (∀ text catalog, Catalog.read text = .ok catalog →
      ∀ again ∈ (Catalog.toJson catalog.toList).texts, Catalog.read again = .ok catalog) ∧
    ∀ text configuration, Configuration.read text = .ok configuration →
      ∀ again ∈ configuration.toJson.texts, Configuration.read again = .ok configuration := by
  refine ⟨fun text declared hread decls hsub again hagain => ?_,
    fun text catalog hread again hagain => ?_, fun text configuration hread again hagain => ?_⟩
  · have hsound : ∀ decl ∈ decls, decl.Sound :=
      fun decl hdecl => Catalog.sound_of_read hread decl (hsub hdecl)
    exact ⟨(Catalog.reads_toJson hsound).of_mem_texts again hagain,
      Catalog.read_toJson hsound again hagain⟩
  · have hsound : catalog.Sound := (Catalog.Loaded.read hread).sound
    rw [Catalog.read_toJson (Catalog.Sound.of_mem_toList hsound) again hagain,
      Catalog.Sound.ofList_toList hsound]
  · exact Configuration.read_toJson (Configuration.sound_of_read hread)
      (Configuration.read_eq_ok.mp hread).2 again hagain

/-! ## §4 A league -/

/-- A document that declares teams twice. -/
def leagueText : String :=
  "[[[\"::Team\"], [\"crate::League\", true], " ++
    "[\"::Team\", false, [[\"past\", \"Option< (::Team, [Vec<u8>; 0x2]) >\", \"pub(crate)\"]]]]]"

/-- What the document declares, in order. -/
def leagueDecls : List TypeDecl :=
  [⟨⟨"::Team"⟩, false, []⟩, ⟨⟨"crate::League"⟩, true, []⟩,
   ⟨⟨"::Team"⟩, false,
     [⟨"past", .node ⟨"()"⟩ [.node ⟨"::Team"⟩ [] false,
       .node ⟨"[2]"⟩ [.node ⟨"Vec"⟩ [.node ⟨"u8"⟩ [] false] false] false] true, .internal⟩]⟩]

/-- A document that lists teams. -/
def seasonText : String :=
  "[[\"Adapter\"], [[\"Season\", [\"::Team\"], [], [[\"::Team\", [[\"past\", \"::ById\"]]]]]]]"

/-- The configuration in the document. -/
def seasonConfiguration : Configuration :=
  ⟨⟨"Adapter", "Serializer", "Module"⟩,
    [((Entry.named "Season").target ⟨"::Team"⟩).overrideField ⟨"::Team"⟩ "past" ⟨"::ById"⟩]⟩

/-- Teams and seasons are read back, also the declaration of teams that another one
replaces. -/
theorem league_read_back :
    Document.read (Catalog.layout.read []) leagueText = .ok leagueDecls ∧
      Catalog.read leagueText = .ok (.ofList leagueDecls) ∧
      Configuration.read seasonText = .ok seasonConfiguration ∧
      Document.read (Catalog.layout.read []) (Catalog.toJson [⟨⟨"::Team"⟩, false, []⟩]).render =
        .ok [⟨⟨"::Team"⟩, false, []⟩] ∧
      Catalog.read (Catalog.toJson (Catalog.ofList leagueDecls).toList).pretty =
        .ok (.ofList leagueDecls) ∧
      Configuration.read seasonConfiguration.toJson.render = .ok seasonConfiguration := by
  have hdeclared : Document.read (Catalog.layout.read []) leagueText = .ok leagueDecls := by
    decide +kernel
  have hcatalog : Catalog.read leagueText = .ok (.ofList leagueDecls) := by
    rw [Catalog.read, hdeclared]
    rfl
  have hseason : Configuration.read seasonText = .ok seasonConfiguration := by decide +kernel
  obtain ⟨hdecls, hwhole, hconfiguration⟩ := documents_read_back
  have hfirst : [⟨⟨"::Team"⟩, false, []⟩] ⊆ leagueDecls :=
    List.cons_subset.mpr ⟨List.mem_cons_self, List.nil_subset _⟩
  refine ⟨hdeclared, hcatalog, hseason, ?_, ?_, ?_⟩
  · exact (hdecls _ _ hdeclared _ hfirst _ List.mem_cons_self).1
  · exact hwhole _ _ hcatalog _ (List.mem_cons_of_mem _ List.mem_cons_self)
  · exact hconfiguration _ _ hseason _ List.mem_cons_self

end Surrogates
