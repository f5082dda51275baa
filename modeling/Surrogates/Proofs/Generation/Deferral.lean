/-
Surrogates.Proofs.Generation.Deferral — which entries are deferred, and why.

What a pass asks of a node is whether it resolves to a serializer; what it
reports is a type that no one knows. `Entry.unknownTypes` lists such types by
what the entry and the catalog declare: a type that is neither built in nor
declared nor overridden, anywhere in the type of a field, but not at the root
of a field that has an override of its own. These are the reasons of a
deferral (`unknownTypes_occurrences`), and entries without such types are not
deferred: `deferred_exactly`.
-/
import Surrogates.Proofs.Generation.Pass
import Surrogates.Proofs.Resolution.Overrides

namespace Surrogates

/-! ## §1 Unknown types -/

namespace Entry

/-- Whether nothing tells how a type is serialized: it is neither built in nor
declared, and the entry names no serializer for it. -/
def LeavesUnknown (entry : Entry) (catalog : Catalog) (type : TypeName) : Prop :=
  type.isBuiltin = false ∧ catalog.find? type = none ∧ type ∉ entry.overriddenTypes

instance (entry : Entry) (catalog : Catalog) (type : TypeName) :
    Decidable (entry.LeavesUnknown catalog type) :=
  inferInstanceAs (Decidable (_ ∧ _))

/-- The nodes of a field's type that the entry has to know: all of them, but not
the root of a field that it overrides. -/
def nodesToKnow (entry : Entry) (owner : TypeName) (field : FieldDecl) : List TypeExpr :=
  if (owner, field.name) ∈ entry.overriddenFields then field.type.nodes.tail else field.type.nodes

/-- The unknown types in a field's type, from the root on. -/
def unknownInField (entry : Entry) (catalog : Catalog) (owner : TypeName) (field : FieldDecl) :
    List UnknownType :=
  ((entry.nodesToKnow owner field).filter fun node => entry.LeavesUnknown catalog node.head).map
    fun node => ⟨owner, field.name, node.head⟩

/-- The unknown types in the eligible fields of the targets of an entry that
have no unit. -/
def unknownTypes (entry : Entry) (catalog : Catalog) (synthesized : List TypeName) :
    List UnknownType :=
  (entry.targets.filter (· ∉ synthesized)).flatMap fun target =>
    (catalog.eligible target).flatMap (entry.unknownInField catalog target)

variable {entry : Entry} {catalog : Catalog}

theorem mem_nodesToKnow {owner : TypeName} {field : FieldDecl} {node : TypeExpr} :
    node ∈ entry.nodesToKnow owner field ↔
      ∃ i : Nat, field.type.nodes[i]? = some node ∧
        (i = 0 → (owner, field.name) ∉ entry.overriddenFields) := by
  rw [nodesToKnow, TypeExpr.nodes_eq, List.tail_cons]
  split
  · next hoverridden =>
    rw [List.mem_iff_getElem?]
    constructor
    · rintro ⟨i, hi⟩
      exact ⟨i + 1, hi, by simp⟩
    · rintro ⟨i, hi, hroot⟩
      cases i with
      | zero => exact absurd hoverridden (hroot rfl)
      | succ i => exact ⟨i, hi⟩
  · next hplain => simp [List.mem_iff_getElem?, hplain]

theorem unknownInField_ne_nil_iff {owner : TypeName} {field : FieldDecl} :
    entry.unknownInField catalog owner field ≠ [] ↔
      ∃ node ∈ entry.nodesToKnow owner field, entry.LeavesUnknown catalog node.head := by
  simp [unknownInField, List.filter_eq_nil_iff]

/-- An entry meets an unknown type exactly if a node that it has to know is one. -/
theorem unknownTypes_ne_nil_iff {synthesized : List TypeName} :
    entry.unknownTypes catalog synthesized ≠ [] ↔
      ∃ target ∈ entry.targets, target ∉ synthesized ∧
        ∃ decl, catalog.find? target = some decl ∧
          ∃ field ∈ decl.fields, field.visibility.isEligible = true ∧
            ∃ (i : Nat) (node : TypeExpr), field.type.nodes[i]? = some node ∧
              entry.LeavesUnknown catalog node.head ∧
              (i = 0 → (target, field.name) ∉ entry.overriddenFields) := by
  have hfields : entry.unknownTypes catalog synthesized ≠ [] ↔
      ∃ target ∈ entry.targets, target ∉ synthesized ∧
        ∃ field ∈ catalog.eligible target, entry.unknownInField catalog target field ≠ [] := by
    simp [unknownTypes, List.flatMap_eq_nil_iff]
  rw [hfields]
  refine exists_congr fun target => and_congr_right fun _ => and_congr_right fun _ => ?_
  simp only [Catalog.mem_eligible, unknownInField_ne_nil_iff, mem_nodesToKnow]
  constructor
  · rintro ⟨field, ⟨decl, hdecl, hfield, heligible⟩, node, ⟨i, hi, hroot⟩, hunknown⟩
    exact ⟨decl, hdecl, field, hfield, heligible, i, node, hi, hunknown, hroot⟩
  · rintro ⟨decl, hdecl, field, hfield, heligible, i, node, hi, hunknown, hroot⟩
    exact ⟨field, ⟨decl, hdecl, hfield, heligible⟩, node, ⟨i, hi, hroot⟩, hunknown⟩

end Entry

/-! ## §2 What a pass finds unknown -/

namespace Context

variable {ctx : Context} {entry : Entry}

/-- A node without a serializer is unknown if its head is neither built in nor
declared: the entry does not override the head then, and nothing is derived. -/
theorem unresolved_eq (hoverrides : Overrides.ofEntry entry = .ok ctx.overrides)
    (node : TypeExpr) :
    ((ctx.resolve node).isNone && !node.head.isBuiltin && !ctx.catalog.declares node.head) =
      decide (entry.LeavesUnknown ctx.catalog node.head) := by
  have htypes : (ctx.overrides.types.get? node.head).isSome = true ↔
      node.head ∈ entry.overriddenTypes := Overrides.isSome_types_iff hoverrides
  rw [Bool.eq_iff_iff, decide_eq_true_iff, Entry.LeavesUnknown, ← htypes]
  unfold resolve resolveHead needsDerived Catalog.find? Catalog.declares Table.contains
  cases ctx.overrides.types.get? node.head <;>
    cases ctx.catalog.types.get? node.head <;> simp

/-- The unknown types of a field are those of the nodes that the entry has to
know. -/
theorem unknownTypes_occurrencesInField (hoverrides : Overrides.ofEntry entry = .ok ctx.overrides)
    (owner : TypeName) (field : FieldDecl) :
    ctx.unknownTypes (ctx.occurrencesInField owner field) =
      entry.unknownInField ctx.catalog owner field := by
  have hfields : (ctx.overrides.fields.get? (owner, field.name)).isSome = true ↔
      (owner, field.name) ∈ entry.overriddenFields := Overrides.isSome_fields_iff hoverrides
  have hnodes : ∀ nodes : List TypeExpr,
      ctx.unknownTypes (nodes.map fun node =>
        ⟨owner, field.name, node.head, ctx.resolve node⟩) =
      (nodes.filter fun node => entry.LeavesUnknown ctx.catalog node.head).map
        fun node => ⟨owner, field.name, node.head⟩ := by
    intro nodes
    simp only [unknownTypes, List.filter_map, List.map_map, Function.comp_def,
      unresolved_eq hoverrides]
  rw [Entry.unknownInField, Entry.nodesToKnow, TypeExpr.nodes_eq, List.tail_cons,
    occurrencesInField, resolveField]
  cases hget : ctx.overrides.fields.get? (owner, field.name) with
  | some serializer =>
    -- the root has its own override, so that no more than the nodes inside are asked for
    rw [hget] at hfields
    rw [if_pos (hfields.mp rfl), ← hnodes]
    simp [unknownTypes]
  | none =>
    rw [hget] at hfields
    rw [if_neg fun hmem => by simp [hmem] at hfields, ← hnodes]
    rfl

/-- What a pass finds unknown is what the entry and the catalog leave unknown,
in order of targets, fields and nodes. -/
theorem unknownTypes_occurrences (hoverrides : Overrides.ofEntry entry = .ok ctx.overrides)
    (synthesized : List TypeName) :
    ctx.unknownTypes (ctx.occurrences synthesized entry.targets) =
      entry.unknownTypes ctx.catalog synthesized := by
  have hflat : ∀ {α : Type} (l : List α) (f : α → List Occurrence),
      ctx.unknownTypes (l.flatMap f) = l.flatMap fun a => ctx.unknownTypes (f a) := by
    intro α l f
    simp only [unknownTypes, List.filter_flatMap, List.map_flatMap]
  rw [occurrences, hflat, Entry.unknownTypes]
  simp only [hflat, unknownTypes_occurrencesInField hoverrides, List.contains_eq_mem,
    decide_not]

end Context

/-! ## §3 Deferred entries -/

namespace Generator

variable {generator : Generator} {catalog : Catalog}

/-- What triage finds unknown in the targets of an entry is what the entry leaves
unknown. -/
theorem unknownTypes_triage {entry : Entry} {overrides : Overrides}
    (hoverrides : Overrides.ofEntry entry = .ok overrides) :
    (⟨catalog, .ofOptions generator.options, overrides⟩ : Context).unknownTypes
        ((⟨catalog, .ofOptions generator.options, overrides⟩ : Context).occurrences
          generator.synthesized entry.targets) =
      entry.unknownTypes catalog generator.synthesized :=
  Context.unknownTypes_occurrences hoverrides generator.synthesized

/-- Triage defers an entry without second overrides for the types that it leaves
unknown, if there are any. -/
theorem deferral?_triage (entry : Entry) :
    (generator.triage catalog entry).deferral? =
      if entry.OverridesOnce ∧ entry.unknownTypes catalog generator.synthesized ≠ [] then
        some ⟨entry.name, entry.unknownTypes catalog generator.synthesized⟩
      else none := by
  rcases triage_cases generator catalog entry with
    ⟨duplicates, herror, hrejected⟩ | ⟨overrides, hok, htriage⟩
  · have htwice : ¬entry.OverridesOnce := by
      rw [← Overrides.isOk_ofEntry_iff]
      simp [herror]
    simp [hrejected, Triage.deferral?, htwice]
  · have honce : entry.OverridesOnce := Overrides.isOk_ofEntry_iff.mp ⟨overrides, hok⟩
    simp only [unknownTypes_triage hok] at htriage
    rcases htriage with ⟨hknown, hready⟩ | ⟨hunknown, hdeferred⟩
    · simp [hready, Triage.deferral?, hknown]
    · simp [hdeferred, Triage.deferral?, honce, hunknown]

theorem triage_eq_deferred_iff {entry : Entry} {deferral : Deferral} :
    generator.triage catalog entry = .deferred deferral ↔
      (entry.OverridesOnce ∧ entry.unknownTypes catalog generator.synthesized ≠ []) ∧
        deferral = ⟨entry.name, entry.unknownTypes catalog generator.synthesized⟩ := by
  rw [← Triage.deferral?_eq_some_iff, deferral?_triage]
  split
  · next h => simp [h, eq_comm]
  · next h => simp [h]

/-- The deferred entries are those without second overrides that leave types
unknown, in order. -/
theorem deferred_runPass (generator : Generator) (catalog : Catalog) (pass : Nat)
    (entries : List Entry) :
    (generator.runPass catalog pass entries).1.deferred =
      (entries.filter fun entry =>
          entry.OverridesOnce ∧ entry.unknownTypes catalog generator.synthesized ≠ []).map
        fun entry => ⟨entry.name, entry.unknownTypes catalog generator.synthesized⟩ := by
  show (entries.map (generator.triage catalog)).filterMap (·.deferral?) = _
  induction entries with
  | nil => rfl
  | cons entry rest ih =>
    rw [List.map_cons, List.filterMap_cons, deferral?_triage, ih, List.filter_cons]
    by_cases h : entry.OverridesOnce ∧ entry.unknownTypes catalog generator.synthesized ≠ []
    · simp [h]
    · simp [h]

/-- The deferred entries of a pass are those without second overrides that leave
types unknown, in order, each with these types for reasons. An entry leaves a
type unknown if it lists a declared target that has no unit, one of whose
eligible fields has a node with a head that is neither built in nor declared
nor overridden, and the node is not the root of an overridden field. -/
theorem deferred_exactly (generator : Generator) (catalog : Catalog) (pass : Nat)
    (entries : List Entry) :
    (generator.runPass catalog pass entries).1.deferred =
      ((entries.filter fun entry =>
          entry.OverridesOnce ∧ entry.unknownTypes catalog generator.synthesized ≠ []).map
        fun entry => ⟨entry.name, entry.unknownTypes catalog generator.synthesized⟩) ∧
      ∀ entry : Entry, entry.unknownTypes catalog generator.synthesized ≠ [] ↔
        ∃ target ∈ entry.targets, target ∉ generator.synthesized ∧
          ∃ decl, catalog.find? target = some decl ∧
            ∃ field ∈ decl.fields, field.visibility.isEligible = true ∧
              ∃ (i : Nat) (node : TypeExpr), field.type.nodes[i]? = some node ∧
                (node.head.isBuiltin = false ∧ catalog.find? node.head = none ∧
                  node.head ∉ entry.overriddenTypes) ∧
                (i = 0 → (target, field.name) ∉ entry.overriddenFields) := by
  exact ⟨deferred_runPass generator catalog pass entries,
    fun entry => Entry.unknownTypes_ne_nil_iff⟩

/-- An event has a day, and a history of days and notes. -/
def eventCatalog : Catalog := .ofList
  [⟨⟨"Event"⟩, false,
      [⟨"day", .node ⟨"Day"⟩ [] false, .exported⟩,
       ⟨"history",
          .node ⟨"Vec"⟩ [.node ⟨"()"⟩ [.node ⟨"Day"⟩ [] false, .node ⟨"Note"⟩ [] true] false] false,
          .exported⟩,
       ⟨"cache", .node ⟨"Cache"⟩ [] false, .hidden⟩]⟩]

/-- An override of the field spares the root of its type, but not the same type
inside of another field. -/
example :
    let entry :=
      ((Entry.named "Log").target ⟨"Event"⟩).overrideField ⟨"Event"⟩ "day" ⟨"Timestamp"⟩
    ((ofOptions .standard).runPass eventCatalog 1 [entry]).1.deferred =
      [⟨"Log", [⟨⟨"Event"⟩, "history", ⟨"Day"⟩⟩, ⟨⟨"Event"⟩, "history", ⟨"Note"⟩⟩]⟩] := rfl

end Generator

end Surrogates
