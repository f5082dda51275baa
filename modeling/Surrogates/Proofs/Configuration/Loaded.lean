/-
Surrogates.Proofs.Configuration.Loaded — what is known of configurations that are
loaded.

All names of types in an entry that is read are paths: those of targets, of types
with overrides, of the serializers in their place, and of excluded types
(`Entry.yields_sound`). Configurations that are read can be joined, under options of
any kind, and their entries stay as they were read (`Loaded.sound`); they are checked if
no name is refused in the end: `Loaded.checked`.
-/
import Surrogates.Configuration.Document
import Surrogates.Proofs.Configuration.Checked
import Surrogates.Proofs.Document.Readers

namespace Surrogates

open Document

/-! ## §1 Entries -/

/-- An override whose names are paths. -/
structure ClassOverride.Sound (decl : ClassOverride) : Prop where
  type : TypeName.isPath decl.type.text.toList = true
  serializer : TypeName.isPath decl.serializer.text.toList = true

/-- An override of a field by a serializer whose name is a path. -/
def FieldOverride.Sound (decl : FieldOverride) : Prop :=
  TypeName.isPath decl.serializer.text.toList = true

/-- Overrides of fields whose names are paths. -/
structure FieldOverrides.Sound (group : FieldOverrides) : Prop where
  type : TypeName.isPath group.type.text.toList = true
  fields : ∀ decl ∈ group.fields, decl.Sound

/-- An entry in which all names of types and serializers are paths. -/
structure Entry.Sound (entry : Entry) : Prop where
  targets : ∀ target ∈ entry.targets, TypeName.isPath target.text.toList = true
  classOverrides : ∀ decl ∈ entry.classOverrides, decl.Sound
  fieldOverrides : ∀ group ∈ entry.fieldOverrides, group.Sound
  excluded : ∀ type ∈ entry.excluded, TypeName.isPath type.text.toList = true

theorem ClassOverride.yields_sound : Yields ClassOverride.Sound (layout.read default) := by
  have hfields : ∀ field ∈ layout.fields, field.Advances fun seen decl =>
      ("type" ∈ seen → TypeName.isPath decl.type.text.toList = true) ∧
        ("serializer" ∈ seen → TypeName.isPath decl.serializer.text.toList = true) := by
    simp only [layout, List.forall_mem_cons]
    refine ⟨?_, ?_, List.forall_mem_nil _⟩
    · exact Field.advances_required yields_typeName fun _ _ _ h hpath =>
        ⟨fun _ => hpath, fun hseen => h.2 (by simpa using hseen)⟩
    · exact Field.advances_required yields_typeName fun _ _ _ h hpath =>
        ⟨fun hseen => h.1 (by simpa using hseen), fun _ => hpath⟩
  intro lexemes decl rest hread
  obtain ⟨seen, ⟨htype, hserializer⟩, hrequired⟩ := Layout.yields_read_of_seen hfields
    ⟨(fun h => nomatch h), (fun h => nomatch h)⟩ _ _ _ hread
  exact ⟨htype (hrequired _ List.mem_cons_self rfl),
    hserializer (hrequired _ (List.mem_cons_of_mem _ List.mem_cons_self) rfl)⟩

theorem FieldOverride.yields_sound : Yields FieldOverride.Sound (layout.read default) := by
  have hfields : ∀ field ∈ layout.fields, field.Advances fun seen decl =>
      "serializer" ∈ seen → FieldOverride.Sound decl := by
    simp only [layout, List.forall_mem_cons]
    refine ⟨?_, ?_, List.forall_mem_nil _⟩
    · exact Field.advances_required (yields_true _) fun _ _ _ h _ hseen => h (by simpa using hseen)
    · exact Field.advances_required yields_typeName fun _ _ _ _ hpath _ => hpath
  intro lexemes decl rest hread
  obtain ⟨seen, hsound, hrequired⟩ :=
    Layout.yields_read_of_seen hfields (fun h => nomatch h) _ _ _ hread
  exact hsound (hrequired _ (List.mem_cons_of_mem _ List.mem_cons_self) rfl)

theorem FieldOverrides.yields_sound : Yields FieldOverrides.Sound (layout.read default) := by
  have hfields : ∀ field ∈ layout.fields, field.Advances fun seen group =>
      ("type" ∈ seen → TypeName.isPath group.type.text.toList = true) ∧
        ∀ decl ∈ group.fields, FieldOverride.Sound decl := by
    simp only [layout, List.forall_mem_cons]
    refine ⟨?_, ?_, List.forall_mem_nil _⟩
    · exact Field.advances_required yields_typeName fun _ _ _ h hpath => ⟨fun _ => hpath, h.2⟩
    · exact Field.advances_required (yields_sequence FieldOverride.yields_sound)
        fun _ _ _ h hsound => ⟨fun hseen => h.1 (by simpa using hseen), hsound⟩
  intro lexemes group rest hread
  obtain ⟨seen, ⟨htype, hsound⟩, hrequired⟩ := Layout.yields_read_of_seen hfields
    ⟨(fun h => nomatch h), List.forall_mem_nil _⟩ _ _ _ hread
  exact ⟨htype (hrequired _ List.mem_cons_self rfl), hsound⟩

theorem Entry.yields_sound : Yields Entry.Sound (layout.read (.named "")) := by
  have hfields : ∀ field ∈ layout.fields, field.Keeps Entry.Sound := by
    simp only [layout, List.forall_mem_cons]
    refine ⟨?_, ?_, ?_, ?_, ?_, List.forall_mem_nil _⟩
    · exact Field.keeps_required (yields_true _) fun _ _ h _ => ⟨h.1, h.2, h.3, h.4⟩
    · exact Field.keeps_required (yields_sequence yields_typeName) fun _ _ h hpaths =>
        ⟨hpaths, h.2, h.3, h.4⟩
    · exact Field.keeps_optional (yields_sequence ClassOverride.yields_sound) fun _ _ h hsound =>
        ⟨h.1, hsound, h.3, h.4⟩
    · exact Field.keeps_optional (yields_sequence FieldOverrides.yields_sound) fun _ _ h hsound =>
        ⟨h.1, h.2, hsound, h.4⟩
    · exact Field.keeps_optional (yields_sequence yields_typeName) fun _ _ h hpaths =>
        ⟨h.1, h.2, h.3, hpaths⟩
  refine Layout.yields_read hfields ⟨?_, ?_, ?_, ?_⟩ <;> exact List.forall_mem_nil _

/-! ## §2 Configurations -/

namespace Configuration

/-- Configurations that are read, joined with one another and given options. -/
inductive Loaded : Configuration → Prop where
  | empty : Loaded ⟨.standard, []⟩
  | read {text : String} {configuration : Configuration}
      (h : Configuration.read text = .ok configuration) : Loaded configuration
  | extend {configuration other : Configuration} (h : Loaded configuration) (h' : Loaded other) :
      Loaded (configuration.extend other)
  | withOptions {configuration : Configuration} (h : Loaded configuration) (options : Options) :
      Loaded { configuration with options }

variable {configuration : Configuration}

/-- A text is read as a configuration if it writes one of which no name is refused. -/
theorem read_eq_ok {text : String} : Configuration.read text = .ok configuration ↔
    Document.read (layout.read ⟨.standard, []⟩) text = .ok configuration ∧
      configuration.check? = none := by
  unfold Configuration.read
  cases Document.read (layout.read ⟨.standard, []⟩) text with
  | error fault => simp
  | ok found =>
    dsimp only
    rw [Except.ok.injEq]
    cases hcheck : found.check? with
    | some error =>
      refine iff_of_false nofun ?_
      rintro ⟨rfl, hnone⟩
      rw [hcheck] at hnone
      cases hnone
    | none =>
      rw [Except.ok.injEq, iff_self_and]
      rintro rfl
      exact hcheck

theorem sound_of_read {text : String} (h : Configuration.read text = .ok configuration) :
    ∀ entry ∈ configuration.entries, entry.Sound := by
  have hfields : ∀ field ∈ layout.fields,
      field.Keeps fun configuration => ∀ entry ∈ configuration.entries, Entry.Sound entry := by
    simp only [layout, List.forall_mem_cons]
    refine ⟨?_, ?_, List.forall_mem_nil _⟩
    · exact Field.keeps_optional (yields_true _) fun _ _ h _ => h
    · exact Field.keeps_required (yields_sequence Entry.yields_sound) fun _ _ _ h => h
  obtain ⟨⟨value, rest⟩, hread, rfl⟩ := Except.map_eq_ok.mp (read_eq_ok.mp h).1
  exact Layout.yields_read hfields (List.forall_mem_nil _) _ _ _ hread

/-- The entries of loaded configurations are sound. -/
theorem Loaded.sound (h : Loaded configuration) :
    ∀ entry ∈ configuration.entries, entry.Sound := by
  induction h with
  | empty => exact List.forall_mem_nil _
  | read hread => exact sound_of_read hread
  | extend _ _ ih ih' => exact List.forall_mem_append.mpr ⟨ih, ih'⟩
  | withOptions _ _ ih => exact ih

/-- A loaded configuration is checked if no name in it is refused. -/
theorem Loaded.checked (h : Loaded configuration) (hnames : configuration.check? = none) :
    configuration.Checked :=
  ⟨hnames, fun entry hentry => (h.sound entry hentry).targets⟩

end Configuration

end Surrogates
