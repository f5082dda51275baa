/-
Surrogates.Proofs.Generation.ItemNames — the names of surrogates and
serializers.

A unit gives two items their names: its target's text with one suffix or the
other behind it. Items of one kind have distinct names, because a target has
one unit only. So two names are the same exactly if they are of both kinds,
and the target of one is that of the other but for a part of a suffix
(`nodup_itemNames_iff`). Whether some calls come to that can be told from the
suffixes: they do if one suffix ends in the other, and else they do not
(`itemNames_nodup`).
-/
import Mathlib.Data.List.Nodup
import Mathlib.Data.List.Perm.Basic
import Surrogates.Proofs.Generation.History
import Surrogates.Proofs.Generation.MissingSurrogates

namespace Surrogates

/-- The names of the items that a unit gives: its surrogate's and its
serializer's. -/
def SurrogateUnit.itemNames (unit : SurrogateUnit) : List TypeName :=
  [unit.surrogate.name, unit.serializer.name]

/-! ## §1 Names of two kinds -/

/-- Where the names of either kind are distinct, all are if no name is of both
kinds. -/
theorem nodup_flatMap_pair {α : Type u} {β : Type v} {f g : α → β} {l : List α}
    (hf : (l.map f).Nodup) (hg : (l.map g).Nodup) :
    (l.flatMap fun a => [f a, g a]).Nodup ↔ ∀ a ∈ l, ∀ b ∈ l, f a ≠ g b := by
  have hperm := List.map_append_flatMap_perm l f fun a => [g a]
  rw [← hperm.nodup_iff, ← List.map_eq_flatMap, List.nodup_append]
  simp only [hf, hg, true_and, List.forall_mem_map]

namespace Generator

/-- The names of the items that calls of a fresh generator give. -/
def itemNames (options : Options) (calls : List Call) : List TypeName :=
  ((ofOptions options).performAll calls).1.flatMap (·.itemNames)

theorem names_of_mem_performAll {options : Options} {calls : List Call} {unit : SurrogateUnit}
    (h : unit ∈ ((ofOptions options).performAll calls).1) :
    unit.surrogate.name = unit.target.withSuffix options.surrogateSuffix ∧
      unit.serializer.name = unit.target.withSuffix options.serializerSuffix := by
  rw [performAll_eq] at h
  obtain ⟨report, hreport, hunit⟩ := List.mem_flatMap.mp h
  exact ⟨surrogateName_of_mem_runPasses hreport hunit,
    serializerName_of_mem_runPasses hreport hunit⟩

theorem nodup_targets_performAll (options : Options) (calls : List Call) :
    (((ofOptions options).performAll calls).1.map (·.target)).Nodup := by
  have hnodup : ((ofOptions options).runPasses (calls.map (·.request))).2.synthesized.Nodup :=
    nodup_runPasses List.nodup_nil _
  rw [synthesized_runPasses, ofOptions, List.nil_append] at hnodup
  rw [performAll_eq]
  exact hnodup

/-- The names of the items of one kind are distinct. -/
theorem nodup_names_performAll {options : Options} {calls : List Call}
    {name : SurrogateUnit → TypeName} {suffix : String}
    (hname : ∀ unit ∈ ((ofOptions options).performAll calls).1,
      name unit = unit.target.withSuffix suffix) :
    (((ofOptions options).performAll calls).1.map name).Nodup := by
  have hmap : ((ofOptions options).performAll calls).1.map name =
      (((ofOptions options).performAll calls).1.map (·.target)).map (·.withSuffix suffix) := by
    rw [List.map_map]
    exact List.map_congr_left hname
  rw [hmap]
  exact List.Nodup.map (fun _ _ => TypeName.withSuffix_inj.mp)
    (nodup_targets_performAll options calls)

/-- The names of the items of a generator are distinct exactly if no surrogate
has the name of a serializer. -/
theorem nodup_itemNames_iff (options : Options) (calls : List Call) :
    (itemNames options calls).Nodup ↔
      ∀ unit ∈ ((ofOptions options).performAll calls).1,
        ∀ other ∈ ((ofOptions options).performAll calls).1,
          unit.target.text ++ options.surrogateSuffix ≠
            other.target.text ++ options.serializerSuffix := by
  have hsurrogates : (((ofOptions options).performAll calls).1.map (·.surrogate.name)).Nodup :=
    nodup_names_performAll fun _ hunit => (names_of_mem_performAll hunit).1
  have hserializers : (((ofOptions options).performAll calls).1.map (·.serializer.name)).Nodup :=
    nodup_names_performAll fun _ hunit => (names_of_mem_performAll hunit).2
  refine (nodup_flatMap_pair hsurrogates hserializers).trans ?_
  refine forall₂_congr fun unit hunit => forall₂_congr fun other hother => ?_
  rw [(names_of_mem_performAll hunit).1, (names_of_mem_performAll hother).2, Ne,
    TypeName.withSuffix_eq_iff]

end Generator

/-! ## §2 Suffixes that end alike -/

/-- One of the suffixes of surrogates and serializers ends in the other. -/
def Options.SuffixesOverlap (options : Options) : Prop :=
  options.serializerSuffix.toList <:+ options.surrogateSuffix.toList ∨
    options.surrogateSuffix.toList <:+ options.serializerSuffix.toList

instance (options : Options) : Decidable options.SuffixesOverlap :=
  inferInstanceAs (Decidable (_ ∨ _))

theorem Options.suffixesOverlap_of_append_eq {options : Options} {text other : String}
    (h : text ++ options.surrogateSuffix = other ++ options.serializerSuffix) :
    options.SuffixesOverlap := by
  have hlist := congrArg String.toList h
  rw [String.toList_append, String.toList_append] at hlist
  have hsurrogate := List.suffix_append text.toList options.surrogateSuffix.toList
  have hserializer := List.suffix_append other.toList options.serializerSuffix.toList
  rw [← hlist] at hserializer
  exact List.suffix_or_suffix_of_suffix hserializer hsurrogate

/-- Where one suffix ends in the other, two names have the same text behind
them. -/
theorem Options.SuffixesOverlap.exists_append_eq {options : Options}
    (h : options.SuffixesOverlap) :
    ∃ type other : TypeName,
      type.text ++ options.surrogateSuffix = other.text ++ options.serializerSuffix := by
  rcases h with ⟨rest, hrest⟩ | ⟨rest, hrest⟩
  · refine ⟨⟨"T"⟩, ⟨"T" ++ String.ofList rest⟩, String.toList_inj.mp ?_⟩
    simp [← hrest]
  · refine ⟨⟨"T" ++ String.ofList rest⟩, ⟨"T"⟩, String.toList_inj.mp ?_⟩
    simp [← hrest]

namespace Generator

/-- A field that needs no serializer. -/
def countField : FieldDecl := ⟨"count", .node ⟨"u32"⟩ [] false, .exported⟩

/-- Two types with nothing but a count. -/
def pairCatalog (type other : TypeName) : Catalog := .ofList
  [⟨type, false, [countField]⟩, ⟨other, false, [countField]⟩]

/-- An entry that lists both. -/
def pairEntry (type other : TypeName) : Entry := ((Entry.named "Pair").target type).target other

variable {generator : Generator} {catalog : Catalog} {entries : List Entry}

theorem eligible_pairCatalog {type other name : TypeName} :
    (pairCatalog type other).eligible name =
      if name = type ∨ name = other then [countField] else [] := by
  have hfind : (pairCatalog type other).find? name =
      if name = other then some ⟨other, false, [countField]⟩
      else if name = type then some ⟨type, false, [countField]⟩ else none := by
    simp only [pairCatalog, Catalog.ofList, Catalog.insertAll, List.foldl_cons, List.foldl_nil,
      Catalog.insert, Catalog.find?, Catalog.empty, Table.get?_insert, Table.get?_empty]
  rw [Catalog.eligible, hfind]
  by_cases hother : name = other
  · rw [if_pos hother, if_pos (.inr hother)]
    rfl
  · by_cases htype : name = type
    · rw [if_neg hother, if_pos htype, if_pos (.inl htype)]
      rfl
    · rw [if_neg hother, if_neg htype, if_neg (not_or.mpr ⟨htype, hother⟩)]

/-- Nothing in the two types is unknown. -/
theorem triage_pairEntry (generator : Generator) (type other : TypeName) :
    generator.triage (pairCatalog type other) (pairEntry type other) =
      .ready ⟨pairEntry type other,
        ⟨pairCatalog type other, .ofOptions generator.options, .empty⟩⟩ := by
  refine triage_of_known rfl (List.map_eq_nil_iff.mpr (List.filter_eq_nil_iff.mpr ?_))
  intro o ho
  obtain ⟨target, -, -, field, hfield, ho⟩ := Context.mem_occurrences.mp ho
  rw [eligible_pairCatalog] at hfield
  split at hfield
  · obtain rfl := List.mem_singleton.mp hfield
    have hhead : o.head = ⟨"u32"⟩ := by
      rw [List.mem_singleton.mp ho]
      rfl
    have hbuiltin : (⟨"u32"⟩ : TypeName).isBuiltin = true := by decide
    simp [hhead, hbuiltin]
  · cases hfield

/-- A target that a pass produces has a unit in its report, if it had none
before. -/
theorem exists_unit_of_mem_produced (pass : Nat) {target : TypeName}
    (hnew : target ∉ generator.synthesized)
    (h : target ∈ produced catalog (generator.readyEntries catalog entries)) :
    ∃ unit ∈ (generator.runPass catalog pass entries).1.units, unit.target = target := by
  have hunit : target ∈ (generator.runPass catalog pass entries).2.synthesized :=
    isSynthesized_iff.mp (isSynthesized_runPass.mpr (.inr h))
  rw [synthesized_runPass, List.mem_append] at hunit
  exact List.mem_map.mp (hunit.resolve_left hnew)

theorem units_performAll_run (generator : Generator) (catalog : Catalog) (entries : List Entry) :
    (generator.performAll [.run catalog entries]).1 =
      (generator.runPass catalog 1 entries).1.units := by
  rw [performAll_cons, perform_eq]
  exact List.append_nil _

theorem exists_unit_of_pair (options : Options) (type other : TypeName) {target : TypeName}
    (htarget : target = type ∨ target = other) :
    ∃ unit ∈ ((ofOptions options).performAll
      [.run (pairCatalog type other) [pairEntry type other]]).1, unit.target = target := by
  have hready : (ofOptions options).readyEntries (pairCatalog type other) [pairEntry type other] =
      [⟨pairEntry type other, ⟨pairCatalog type other, .ofOptions options, .empty⟩⟩] := by
    rw [readyEntries, List.map_singleton, triage_pairEntry]
    rfl
  have hproduced : target ∈ produced (pairCatalog type other)
      ((ofOptions options).readyEntries (pairCatalog type other) [pairEntry type other]) := by
    rw [hready, mem_produced, eligible_pairCatalog, if_pos htarget]
    refine ⟨⟨_, List.mem_singleton_self _, ?_⟩, List.cons_ne_nil _ _⟩
    rcases htarget with rfl | rfl
    · exact List.mem_cons_self
    · exact List.mem_cons_of_mem _ List.mem_cons_self
  rw [units_performAll_run]
  exact exists_unit_of_mem_produced 1 List.not_mem_nil hproduced

theorem check?_pairEntry {options : Options} (haccepted : options.check? = none)
    (type other : TypeName) :
    (⟨options, [pairEntry type other]⟩ : Configuration).check? = none := by
  have hname : checkIdentifier? .entry "Pair" = none := by decide
  have hentry : (pairEntry type other).check? = none := by
    rw [Entry.check?, show (pairEntry type other).name = "Pair" from rfl, hname]
    rfl
  rw [Configuration.check?, haccepted, List.findSome?_cons, hentry]
  rfl

/-! ## §3 Whether names are distinct -/

/-- **Distinct names.** The names of the surrogates and serializers of a
generator are distinct exactly if no target with the suffix of surrogates is
another with the suffix of serializers. If neither suffix ends in the other,
this is so whatever the calls; if one does, some accepted configuration gives
a name twice. -/
theorem itemNames_nodup (options : Options) (haccepted : options.check? = none) :
    (∀ calls, (itemNames options calls).Nodup ↔
      let units := ((ofOptions options).performAll calls).1
      ∀ unit ∈ units, ∀ other ∈ units,
        unit.target.text ++ options.surrogateSuffix ≠
          other.target.text ++ options.serializerSuffix) ∧
      (¬options.SuffixesOverlap → ∀ calls, (itemNames options calls).Nodup) ∧
      (options.SuffixesOverlap → ∃ catalog entries,
        (⟨options, entries⟩ : Configuration).check? = none ∧
          ¬(itemNames options [.run catalog entries]).Nodup) := by
  refine ⟨nodup_itemNames_iff options, fun hdistinct calls => ?_, fun hoverlap => ?_⟩
  · refine (nodup_itemNames_iff options calls).mpr fun unit _ other _ heq => ?_
    exact hdistinct (Options.suffixesOverlap_of_append_eq heq)
  · obtain ⟨type, other, heq⟩ := hoverlap.exists_append_eq
    refine ⟨pairCatalog type other, [pairEntry type other], check?_pairEntry haccepted type other,
      fun hnodup => ?_⟩
    obtain ⟨unit, hunit, hfirst⟩ := exists_unit_of_pair options type other (.inl rfl)
    obtain ⟨made, hmade, hsecond⟩ := exists_unit_of_pair options type other (.inr rfl)
    refine (nodup_itemNames_iff options _).mp hnodup unit hunit made hmade ?_
    rw [hfirst, hsecond, heq]

/-- With the usual suffixes no calls give a name twice. -/
theorem itemNames_nodup_standard :
    Options.standard.check? = none ∧ ∀ calls, (itemNames .standard calls).Nodup := by
  have haccepted : Options.standard.check? = none := by decide
  exact ⟨haccepted, (itemNames_nodup .standard haccepted).2.1 (by decide)⟩

/-! ## §4 One suffix for both -/

/-- Options with the same suffix for surrogates and for serializers. -/
def adapterOptions : Options := ⟨"Adapter", "Adapter", "Module"⟩

/-- A team has a size. -/
def sizeCatalog : Catalog := .ofList
  [⟨⟨"crate::hr::Team"⟩, false, [⟨"size", .node ⟨"u32"⟩ [] false, .exported⟩]⟩]

/-- A configuration that lists teams. -/
def adapterConfiguration : Configuration :=
  ⟨adapterOptions, [(Entry.named "Hr").target ⟨"crate::hr::Team"⟩]⟩

/-- The options are accepted, and the two items of a team have one name. -/
theorem itemNames_team :
    adapterConfiguration.check? = none ∧
      itemNames adapterOptions [.run sizeCatalog adapterConfiguration.entries] =
        [⟨"crate::hr::TeamAdapter"⟩, ⟨"crate::hr::TeamAdapter"⟩] ∧
      ¬(itemNames adapterOptions [.run sizeCatalog adapterConfiguration.entries]).Nodup :=
  ⟨by decide, rfl, by decide⟩

end Generator

end Surrogates
