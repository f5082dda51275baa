/-
Surrogates.Proofs.Generation.Reliance — warnings about serializers that no
field relies on.

A pass looks for derived serializers at every node of a field's type, and it
warns of those that no entry provides. The plan of the field uses only those
at the nodes that it reaches (`serializers_surrogateField`): none below a
serializer, as of an override of the field, and none inside of a type of the
user. So a warning is about a serializer that the field uses exactly if the
plan reaches a node with it, and this is sure where the plan goes on at each
node with arguments: `warned_iff_and_used_iff`. Otherwise a pass may warn of a
serializer that no field uses: `warned_not_used_team`.
-/
import Surrogates.Proofs.Generation.MissingSurrogates

namespace Surrogates

namespace Context

variable {ctx : Context} {owner : TypeName} {field : FieldDecl}

/-! ## §1 The nodes that the plan of a field reaches -/

/-- The nodes of a field's type that its plan reaches: the root, and those inside
if the plan goes on from it. -/
def reachedInField (ctx : Context) (owner : TypeName) (field : FieldDecl) : List Occurrence :=
  let found := ctx.resolveField owner field.name field.type
  ⟨owner, field.name, field.type.head, found⟩ ::
    if goesOn found field.type.head then
      (ctx.reachedOfArgs field.type.args).map fun node =>
        ⟨owner, field.name, node.head, ctx.resolve node⟩
    else []

/-- Whether the plan of a field goes on at all nodes that have arguments. -/
def GoesThroughField (ctx : Context) (owner : TypeName) (field : FieldDecl) : Prop :=
  (field.type.args = [] ∨
      goesOn (ctx.resolveField owner field.name field.type) field.type.head = true) ∧
    ctx.GoesThrough (TypeExpr.nodesOfArgs field.type.args)

/-- The plan of a field uses the serializers of the nodes that it reaches. -/
theorem serializers_surrogateField (ctx : Context) (owner : TypeName) (field : FieldDecl) :
    (ctx.surrogateField owner field).plan.serializers =
      (ctx.reachedInField owner field).filterMap (·.serializer) := by
  show (ctx.planField field.type (ctx.resolveField owner field.name field.type)).serializers = _
  rw [serializers_planField, reachedInField]
  cases hfound : ctx.resolveField owner field.name field.type with
  | some found => simp [goesOn]
  | none =>
    split
    · rw [List.filterMap_cons, List.filterMap_map]
      rfl
    · rfl

theorem reachedInField_sublist (ctx : Context) (owner : TypeName) (field : FieldDecl) :
    (ctx.reachedInField owner field).Sublist (ctx.occurrencesInField owner field) := by
  refine List.Sublist.cons_cons _ ?_
  split
  · exact (reachedOfArgs_sublist ctx field.type.args).map _
  · exact List.nil_sublist _

/-- The plan of a field reaches every node exactly if it goes on wherever there
are arguments. -/
theorem reachedInField_eq_iff :
    ctx.reachedInField owner field = ctx.occurrencesInField owner field ↔
      ctx.GoesThroughField owner field := by
  have hsublist := reachedOfArgs_sublist ctx field.type.args
  rw [GoesThroughField, ← reachedOfArgs_eq_nodesOfArgs_iff, reachedInField, occurrencesInField,
    List.cons_inj_right]
  cases hgoes : goesOn (ctx.resolveField owner field.name field.type) field.type.head with
  | true =>
    simp only [if_true, or_true, true_and]
    refine ⟨fun h => hsublist.eq_of_length ?_, fun h => by rw [h]⟩
    simpa using congrArg List.length h
  | false =>
    cases field.type.args with
    | nil => simp [reachedOfArgs, TypeExpr.nodesOfArgs]
    | cons arg rest => simp [TypeExpr.nodesOfArgs, arg.nodes_eq]

end Context

/-! ## §2 What is warned of and what is used -/

namespace Generator

variable {generator : Generator} {catalog : Catalog} {entries : List Entry}

/-- A derived serializer has one type, which is the head of each node with it. -/
theorem head_eq_of_serializer {ready : Ready}
    (hready : ready ∈ generator.readyEntries catalog entries) {o : Occurrence}
    (ho : o ∈ ready.context.occurrences generator.synthesized ready.entry.targets)
    {type : TypeName}
    (hs : o.serializer = some ((Naming.ofOptions generator.options).serializer type)) :
    o.head = type :=
  (Naming.serializer_inj.mp (eq_serializer_of_occurrence hready ho hs rfl)).symm

/-- **Warnings and uses.** A pass warns of a derived serializer in a field exactly
if no entry provides it and a node of the field has it. The plan of the field uses
it exactly if it reaches such a node. It reaches some of the nodes, and all of
them exactly if it goes on at each node with arguments. -/
theorem warned_iff_and_used_iff (generator : Generator) (catalog : Catalog) (pass : Nat)
    (entries : List Entry) (name : String) (owner : TypeName) (field : String) (type : TypeName) :
    let ready := generator.readyEntries catalog entries
    let serializer := (Naming.ofOptions generator.options).serializer type
    ((⟨name, .missingSurrogate owner field type⟩ : Diagnostic) ∈
        (generator.runPass catalog pass entries).1.diagnostics ↔
      type ∉ generator.synthesized ∧ type ∉ produced catalog ready ∧
        ∃ r ∈ ready, r.entry.name = name ∧ owner ∈ r.entry.targets ∧
          owner ∉ generator.synthesized ∧
          ∃ decl ∈ catalog.eligible owner, decl.name = field ∧
            ∃ o ∈ r.context.occurrencesInField owner decl, o.serializer = some serializer) ∧
    ∀ r ∈ ready, ∀ decl ∈ catalog.eligible owner,
      (serializer ∈ (r.context.surrogateField owner decl).plan.serializers ↔
        ∃ o ∈ r.context.reachedInField owner decl, o.serializer = some serializer) ∧
      (r.context.reachedInField owner decl).Sublist (r.context.occurrencesInField owner decl) ∧
      (r.context.reachedInField owner decl = r.context.occurrencesInField owner decl ↔
        r.context.GoesThroughField owner decl) := by
  intro ready serializer
  refine ⟨?_, fun r _ decl _ => ⟨?_, Context.reachedInField_sublist ..,
    Context.reachedInField_eq_iff⟩⟩
  · rw [missingSurrogate_mem_diagnostics_iff]
    constructor
    · rintro ⟨r, hr, hmissing⟩
      obtain ⟨o, ho, ⟨s, hs, hderived⟩, hnew, hproduced, heq⟩ := mem_missing.mp hmissing
      cases heq
      obtain ⟨target, htarget, hunit, decl, hdecl, hfield⟩ := Context.mem_occurrences.mp ho
      obtain ⟨rfl, hname⟩ := Context.owner_of_mem_occurrencesInField hfield
      obtain rfl := eq_serializer_of_occurrence hr ho hs hderived
      exact ⟨hnew, hproduced, r, hr, rfl, htarget, hunit, decl,
        (mem_readyEntries hr).2.1 ▸ hdecl, hname.symm, o, hfield, hs⟩
    · rintro ⟨hnew, hproduced, r, hr, rfl, htarget, hunit, decl, hdecl, rfl, o, hfield, hs⟩
      have ho := Context.mem_occurrences.mpr
        ⟨owner, htarget, hunit, decl, (mem_readyEntries hr).2.1.symm ▸ hdecl, hfield⟩
      obtain ⟨howner, hname⟩ := Context.owner_of_mem_occurrencesInField hfield
      obtain rfl := head_eq_of_serializer hr ho hs
      refine ⟨r, hr, mem_missing.mpr ⟨o, ho, ⟨serializer, hs, rfl⟩, hnew, hproduced, ?_⟩⟩
      rw [howner, hname]
  · rw [Context.serializers_surrogateField, List.mem_filterMap]

/-! ## §3 Members of a team -/

/-- The members of a team. -/
def membersField : FieldDecl :=
  ⟨"members", .node ⟨"Vec"⟩ [.node ⟨"Person"⟩ [] false] false, .exported⟩

/-- A pass warns of the serializer of persons in the members of a team, and the
plan of the members uses it. -/
theorem warned_and_used_team :
    (⟨"Teams", .missingSurrogate ⟨"Team"⟩ "members" ⟨"Person"⟩⟩ : Diagnostic) ∈
        ((ofOptions .standard).runPass teamCatalog 1 [teamEntry]).1.diagnostics ∧
      personSerializer ∈
        (teamContext.surrogateField ⟨"Team"⟩ membersField).plan.serializers := by
  have hready : (ofOptions .standard).readyEntries teamCatalog [teamEntry] =
      [⟨teamEntry, teamContext⟩] := rfl
  have hmembers : membersField ∈ teamCatalog.eligible ⟨"Team"⟩ :=
    List.mem_cons_of_mem _ List.mem_cons_self
  obtain ⟨hwarned, hused⟩ := warned_iff_and_used_iff (ofOptions .standard) teamCatalog 1
    [teamEntry] "Teams" ⟨"Team"⟩ "members" ⟨"Person"⟩
  rw [hready] at hwarned hused
  constructor
  · refine hwarned.mpr ⟨by decide, by decide, _, List.mem_cons_self, rfl, List.mem_cons_self,
      by decide, membersField, hmembers, rfl, ?_⟩
    exact ⟨_, List.mem_cons_of_mem _ List.mem_cons_self, rfl⟩
  · refine (hused _ List.mem_cons_self membersField hmembers).1.mpr ?_
    exact ⟨_, List.mem_cons_of_mem _ List.mem_cons_self, rfl⟩

/-- An entry that lists teams and has a serializer for their members. -/
def namedMembers : Entry := teamEntry.overrideField ⟨"Team"⟩ "members" ⟨"Names"⟩

/-- A pass warns of the serializer of persons in the members of a team also where
the members have a serializer of their own, and their plan uses no other. -/
theorem warned_not_used_team :
    (⟨"Teams", .missingSurrogate ⟨"Team"⟩ "members" ⟨"Person"⟩⟩ : Diagnostic) ∈
        ((ofOptions .standard).runPass teamCatalog 1 [namedMembers]).1.diagnostics ∧
      ∀ r ∈ (ofOptions .standard).readyEntries teamCatalog [namedMembers],
        ∀ decl ∈ teamCatalog.eligible ⟨"Team"⟩, decl.name = "members" →
          (r.context.surrogateField ⟨"Team"⟩ decl).plan.serializers = [.explicit ⟨"Names"⟩] ∧
            (Naming.ofOptions .standard).serializer ⟨"Person"⟩ ∉
              (r.context.surrogateField ⟨"Team"⟩ decl).plan.serializers := by
  decide +kernel

end Generator

end Surrogates
