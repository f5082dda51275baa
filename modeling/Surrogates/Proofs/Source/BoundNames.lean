/-
Surrogates.Proofs.Source.BoundNames — when a unit's file binds a name twice.

Two imports of a file that bind the same name are of the same serializer. A
serializer is imported twice exactly if the unit imports it both as one that
an override names and as one that is derived: the blocks of imports are made
from references, which tell these apart, and the names from what they refer
to. `bound_once_iff` says so of every unit that is synthesized, and
`bound_twice_team` has a unit whose file does not compile for it.
-/
import Surrogates.Proofs.Source.Imports
import Mathlib.Data.List.Pairwise

namespace Surrogates.Source.UnitFile

variable {ctx : Context} {target : TypeName} {decls : List FieldDecl} {unit : SurrogateUnit}

/-! ## §1 Imports of one name -/

/-- Imports that bind the same name are the same. -/
theorem eq_of_name_eq {use other : Use} (huse : use ∈ (of unit).attached ++ (of unit).inner)
    (hother : other ∈ (of unit).attached ++ (of unit).inner) (h : use.name = other.name) :
    use = other := by
  obtain ⟨taken, hassigned⟩ := Aliases.assigned_ofUnit unit
  have hpath : use.path = other.path :=
    hassigned.injective (get?_path huse) (h ▸ get?_path hother)
  cases use
  cases other
  exact (Use.mk.injEq ..).mpr ⟨hpath, h⟩

/-- References to serializers of one name are of different kinds, or the same. -/
theorem eq_or_kinds {s t : Serializer} (h : s.name = t.name) :
    s = t ∨ s = .explicit s.name ∧ t = .derived s.name ∨
      s = .derived s.name ∧ t = .explicit s.name := by
  obtain ⟨name, kind⟩ := s
  obtain ⟨other, kind'⟩ := t
  cases h
  cases kind <;> cases kind' <;> simp [Serializer.explicit, Serializer.derived]

/-! ## §2 Names bound twice -/

/-- Two references to serializers of which the file has imports that bind
different names, if it has imports of both. -/
def Apart (unit : SurrogateUnit) (s t : Serializer) : Prop :=
  isWanted unit s = true → isWanted unit t = true →
    ∀ use, Use.of? (Aliases.ofUnit unit) s.name = some use →
      ∀ other, Use.of? (Aliases.ofUnit unit) t.name = some other → use.name ≠ other.name

instance : Std.Symm (Apart unit) :=
  ⟨fun _ _ h hs ht use huse other hother heq => h ht hs other hother use huse heq.symm⟩

theorem nodup_names_iff (h : ctx.synthesize? target decls = some unit) :
    (((of unit).attached ++ (of unit).inner).map (·.name)).Nodup ↔
      unit.serializer.imports.Pairwise (Apart unit) := by
  rw [attached_append_inner h, uses, List.Nodup, List.pairwise_map, List.pairwise_filterMap,
    List.pairwise_filter]
  rfl

/-- **When a file binds each name once.** Imports that bind the same name are
the same, and no name is bound twice exactly if no serializer that the file
imports is both named by an override and derived. -/
theorem bound_once_iff (h : ctx.synthesize? target decls = some unit) :
    let uses := (of unit).attached ++ (of unit).inner
    (∀ use ∈ uses, ∀ other ∈ uses, use.name = other.name → use = other) ∧
    ((uses.map (·.name)).Nodup ↔ ∀ path ∈ uses.map (·.path),
      ¬(.explicit path ∈ unit.serializer.imports ∧
        .derived path ∈ unit.serializer.imports)) := by
  intro uses
  have huses : uses = UnitFile.uses unit (Aliases.ofUnit unit) unit.serializer.imports :=
    attached_append_inner h
  refine ⟨fun use huse other hother => eq_of_name_eq huse hother, ?_⟩
  rw [nodup_names_iff h]
  constructor
  · rintro hpairs path hpath ⟨hexplicit, hderived⟩
    obtain ⟨use, huse, rfl⟩ := List.mem_map.mp hpath
    rw [huses] at huse
    obtain ⟨s, -, hwanted, hof⟩ := mem_uses.mp huse
    rw [(Use.of?_eq_some.mp hof).1] at hexplicit hderived
    have hapart : Apart unit (.explicit s.name) (.derived s.name) :=
      hpairs.forall hexplicit hderived (by simp [Serializer.explicit, Serializer.derived])
    exact hapart hwanted hwanted use hof use hof rfl
  · intro hkinds
    refine (Context.nodup_imports h).pairwise_of_forall_ne fun s hs t ht hne hswanted _
      use huse other hother hname => ?_
    obtain ⟨taken, hassigned⟩ := Aliases.assigned_ofUnit unit
    obtain ⟨hpath, hget, -⟩ := Use.of?_eq_some.mp huse
    obtain ⟨-, hget', -⟩ := Use.of?_eq_some.mp hother
    have hsame : s.name = t.name := hassigned.injective hget (hname ▸ hget')
    have hmem : s.name ∈ uses.map (·.path) := by
      rw [huses, ← hpath]
      exact List.mem_map_of_mem (mem_uses.mpr ⟨s, hs, hswanted, huse⟩)
    rcases eq_or_kinds hsame with heq | ⟨hexplicit, hderived⟩ | ⟨hderived, hexplicit⟩
    · exact hne heq
    · exact hkinds _ hmem ⟨hexplicit ▸ hs, hderived ▸ ht⟩
    · exact hkinds _ hmem ⟨hexplicit ▸ ht, hderived ▸ hs⟩

/-- The two codecs are imported once each. -/
theorem bound_once_codecs :
    codecContext.synthesize? ⟨"crate::hr::Position"⟩ codecFields = some codecUnit ∧
      (((of codecUnit).attached ++ (of codecUnit).inner).map (·.name)).Nodup := by
  have h : codecContext.synthesize? ⟨"crate::hr::Position"⟩ codecFields = some codecUnit := rfl
  exact ⟨h, (bound_once_iff h).2.mpr (by decide)⟩

/-! ## §3 A serializer that is named and derived -/

/-- A team of two persons in positions. -/
def teamCatalog : Catalog := .ofList
  [⟨⟨"crate::hr::Team"⟩, false,
      [⟨"lead", .node ⟨"crate::hr::Position"⟩ [] false, .exported⟩,
       ⟨"deputy", .node ⟨"crate::hr::Position"⟩ [] false, .exported⟩]⟩,
   ⟨⟨"crate::hr::Position"⟩, false, [⟨"title", .node ⟨"String"⟩ [] false, .exported⟩]⟩]

/-- For one of the two an override names the serializer that is derived for the
other. -/
def teamContext : Context where
  catalog := teamCatalog
  naming := .ofOptions .standard
  overrides :=
    { types := ∅
      fields := (∅ : Table (TypeName × String) Serializer).insert
        (⟨"crate::hr::Team"⟩, "lead") (.explicit ⟨"crate::hr::PositionSerializer"⟩) }

/-- The file of the team imports the serializer of positions twice. -/
theorem bound_twice_team :
    ∃ decls unit, teamCatalog.fields? ⟨"crate::hr::Team"⟩ = some decls ∧
      teamContext.synthesize? ⟨"crate::hr::Team"⟩ decls = some unit ∧
      (of unit).lines.filter isUse =
        ["use crate::hr::PositionSerializer;", "use crate::hr::PositionSerializer;"] ∧
      ¬(((of unit).attached ++ (of unit).inner).map (·.name)).Nodup := by
  refine ⟨_, _, rfl, rfl, ?_, ?_⟩
  · rw [lines_filter_isUse]
    rfl
  · decide

end Surrogates.Source.UnitFile
