/-
Surrogates.Proofs.Generation.Knowledge — surrogates do not change when more
types become known.

A catalog extends another if it declares each type of it in the same way. In
an entry that is ready, every node of a pending target is overridden, built
in or declared (`known_of_triage`), so that no further declaration gives it
another serializer (`resolveField_of_known`, `resolve_of_known`). Plans are
the same wherever nodes resolve to the same serializers (`planNested_congr`),
and so are the surrogates: `withoutImports_of_extends`. Only the imports of a
file may become more: under a field that has an override of its own, a type
that becomes known is collected all the same.
-/
import Surrogates.Proofs.Generation.Pass
import Surrogates.Proofs.Resolution.Context

namespace Surrogates

/-! ## §1 Catalogs that know more -/

/-- A catalog that declares every type of another one identically, and perhaps
further types. -/
def Catalog.Extends (later catalog : Catalog) : Prop :=
  ∀ name decl, catalog.find? name = some decl → later.find? name = some decl

/-- A new declaration makes a catalog that extends the one before. -/
theorem Catalog.extends_insert {catalog : Catalog} {decl : TypeDecl}
    (h : catalog.find? decl.name = none) : (catalog.insert decl).Extends catalog := by
  intro name found hfound
  have hne : name ≠ decl.name := by
    rintro rfl
    rw [h] at hfound
    cases hfound
  have hget : (catalog.insert decl).find? name =
      if name = decl.name then some decl else catalog.find? name := Table.get?_insert ..
  rw [hget, if_neg hne, hfound]

theorem Catalog.declares_iff {catalog : Catalog} {name : TypeName} :
    catalog.declares name = true ↔ ∃ decl, catalog.find? name = some decl :=
  Option.isSome_iff_exists

namespace Context

variable {ctx other : Context} {later : Catalog}

/-- What decides whether a serializer is derived for a declared type is in its
declaration. -/
theorem needsDerived_of_declares (hextends : later.Extends ctx.catalog) {head : TypeName}
    (h : ctx.catalog.declares head = true) :
    ({ ctx with catalog := later } : Context).needsDerived head = ctx.needsDerived head := by
  obtain ⟨decl, hdecl⟩ := Catalog.declares_iff.mp h
  have hlater : later.find? head = some decl := hextends head decl hdecl
  have hdeclares : later.declares head = true := Catalog.declares_iff.mpr ⟨decl, hlater⟩
  simp only [needsDerived, h, hdeclares, Catalog.isNative, hdecl, hlater]

/-- A node that resolves to a serializer, or is built in, or declared, resolves
to the same where more is known. -/
theorem resolve_of_known (hextends : later.Extends ctx.catalog) {node : TypeExpr}
    (h : (ctx.resolve node).isSome = true ∨ node.head.isBuiltin = true ∨
      ctx.catalog.declares node.head = true) :
    ({ ctx with catalog := later } : Context).resolve node = ctx.resolve node := by
  unfold resolve resolveHead at h ⊢
  cases hget : ctx.overrides.types.get? node.head with
  | some found => rfl
  | none =>
    -- without an override a node resolves to a serializer only if it is declared
    have hneeds : ({ ctx with catalog := later } : Context).needsDerived node.head =
        ctx.needsDerived node.head := by
      simp only [hget] at h
      rcases h with hsome | hbuiltin | hdeclares
      · split at hsome
        · next hneeded => exact needsDerived_of_declares hextends (needsDerived_iff.mp hneeded).2.1
        · cases hsome
      · simp [needsDerived, hbuiltin]
      · exact needsDerived_of_declares hextends hdeclares
    simp only [hneeds]

theorem resolveField_of_known (hextends : later.Extends ctx.catalog) {owner : TypeName}
    {field : String} {type : TypeExpr}
    (h : (ctx.resolveField owner field type).isSome = true ∨ type.head.isBuiltin = true ∨
      ctx.catalog.declares type.head = true) :
    ({ ctx with catalog := later } : Context).resolveField owner field type =
      ctx.resolveField owner field type := by
  unfold resolveField at h ⊢
  cases hget : ctx.overrides.fields.get? (owner, field) with
  | some found => rfl
  | none =>
    simp only [hget] at h ⊢
    exact resolve_of_known hextends h

/-! ## §2 Plans and surrogates in two contexts -/

mutual

/-- Where the nodes of a type resolve to the same serializers, its plans are
the same. -/
theorem planNested_congr :
    ∀ type : TypeExpr, (∀ node ∈ type.nodes, ctx.resolve node = other.resolve node) →
      ctx.planNested type = other.planNested type
  | .node head args nullable, h => by
    have hhead : ctx.resolveHead head = other.resolveHead head :=
      h (.node head args nullable) (List.mem_cons_self ..)
    have hargs : ctx.planArgs args = other.planArgs args :=
      planArgs_congr args fun node hnode => h node (List.mem_cons_of_mem _ hnode)
    rw [planNested, planNested, hhead, hargs]

theorem planArgs_congr :
    ∀ types : List TypeExpr,
      (∀ node ∈ TypeExpr.nodesOfArgs types, ctx.resolve node = other.resolve node) →
      ctx.planArgs types = other.planArgs types
  | [], _ => rfl
  | arg :: rest, h => by
    rw [planArgs, planArgs,
      planNested_congr arg fun node hnode => h node (List.mem_append_left _ hnode),
      planArgs_congr rest fun node hnode => h node (List.mem_append_right _ hnode)]

end

/-- A field of a surrogate depends on nothing but what the field and the nodes
inside its type resolve to. -/
theorem surrogateField_congr {target : TypeName} {field : FieldDecl}
    (hroot : ctx.resolveField target field.name field.type =
      other.resolveField target field.name field.type)
    (hinside : ∀ node ∈ TypeExpr.nodesOfArgs field.type.args,
      ctx.resolve node = other.resolve node) :
    ctx.surrogateField target field = other.surrogateField target field := by
  simp only [surrogateField, planField, hroot, planArgs_congr field.type.args hinside]

end Context

/-- The unit without the list of what its file imports. -/
def SurrogateUnit.withoutImports (unit : SurrogateUnit) : SurrogateUnit :=
  { unit with
    surrogate := { unit.surrogate with fileScope := [] }
    serializer := { unit.serializer with imports := [] } }

/-- Imports apart, a unit depends on nothing but the names and its fields. -/
theorem Context.withoutImports_congr {ctx other : Context} {target : TypeName}
    {fields : List FieldDecl} (hnaming : ctx.naming = other.naming)
    (hfields : ∀ field ∈ fields.filter (·.visibility.isEligible),
      ctx.surrogateField target field = other.surrogateField target field) :
    (ctx.synthesize? target fields).map (·.withoutImports) =
      (other.synthesize? target fields).map (·.withoutImports) := by
  have hmap := List.map_congr_left hfields
  unfold synthesize?
  dsimp only
  split
  · rfl
  · simp only [Option.map_some, SurrogateUnit.withoutImports, hmap, hnaming]

/-! ## §3 Ready entries -/

namespace Generator

variable {generator : Generator} {catalog later : Catalog} {entry : Entry} {ready : Ready}

/-- In an entry that is ready, every node of a pending target resolves to a
serializer, or is built in, or declared. -/
theorem known_of_triage (h : generator.triage catalog entry = .ready ready) {target : TypeName}
    (htarget : target ∈ entry.targets) (hpending : target ∉ generator.synthesized)
    {field : FieldDecl} (hfield : field ∈ catalog.eligible target) {o : Occurrence}
    (ho : o ∈ ready.context.occurrencesInField target field) :
    o.serializer.isSome = true ∨ o.head.isBuiltin = true ∨ catalog.declares o.head = true := by
  rcases triage_cases generator catalog entry with
    ⟨duplicates, -, hrejected⟩ | ⟨overrides, -, ⟨hunknown, hready⟩ | ⟨-, hdeferred⟩⟩
  · rw [hrejected] at h
    cases h
  · rw [hready] at h
    cases h
    have hmem : o ∈ (⟨catalog, .ofOptions generator.options, overrides⟩ : Context).occurrences
        generator.synthesized entry.targets := by
      refine List.mem_flatMap.mpr ⟨target, ?_, List.mem_flatMap.mpr ⟨field, hfield, ho⟩⟩
      exact List.mem_filter.mpr ⟨htarget, by simpa using hpending⟩
    have hnot := List.filter_eq_nil_iff.mp (List.map_eq_nil_iff.mp hunknown) o hmem
    simp only [Bool.and_eq_true, Bool.not_eq_true', not_and, Bool.not_eq_false] at hnot
    cases hserializer : o.serializer with
    | some found => exact .inl rfl
    | none =>
      cases hbuiltin : o.head.isBuiltin with
      | true => exact .inr (.inl rfl)
      | false => exact .inr (.inr (hnot ⟨by rw [hserializer]; rfl, hbuiltin⟩))
  · rw [hdeferred] at h
    cases h

/-- In an entry that is ready, the fields of the surrogates of pending targets
are the same where more is known. -/
theorem surrogateField_of_extends (hextends : later.Extends catalog)
    (h : generator.triage catalog entry = .ready ready) {target : TypeName}
    (htarget : target ∈ entry.targets) (hpending : target ∉ generator.synthesized)
    {field : FieldDecl} (hfield : field ∈ catalog.eligible target) :
    ({ ready.context with catalog := later } : Context).surrogateField target field =
      ready.context.surrogateField target field := by
  have hknown := fun o => known_of_triage h htarget hpending hfield (o := o)
  obtain ⟨-, hcatalog, -, -⟩ := triage_eq_ready h
  subst hcatalog
  refine Context.surrogateField_congr ?_ fun node hnode => ?_
  · exact Context.resolveField_of_known hextends (hknown _ (List.mem_cons_self ..))
  · have hmem : (⟨target, field.name, node.head, ready.context.resolve node⟩ : Occurrence) ∈
        ready.context.occurrencesInField target field :=
      List.mem_cons_of_mem _ (List.mem_map.mpr ⟨node, hnode, rfl⟩)
    exact Context.resolve_of_known hextends (hknown _ hmem)

/-- **Later knowledge changes no surrogate.** In an entry that is neither
rejected nor deferred, a pending target that is declared has the same unit
where more types are known, but for the imports: the same surrogate fields
with their types, attachments and plans, the same conversions, and the same
omitted fields; or none in either case. -/
theorem withoutImports_of_extends (hextends : later.Extends catalog)
    (h : generator.triage catalog entry = .ready ready) :
    ∃ overrides, Overrides.ofEntry entry = .ok overrides ∧
      ∀ target ∈ entry.targets, target ∉ generator.synthesized →
        ∀ decl, catalog.find? target = some decl →
          let before : Context := ⟨catalog, .ofOptions generator.options, overrides⟩
          let after : Context := ⟨later, .ofOptions generator.options, overrides⟩
          later.find? target = some decl ∧
            (after.synthesize? target decl.fields).map (·.withoutImports) =
              (before.synthesize? target decl.fields).map (·.withoutImports) := by
  obtain ⟨-, hcatalog, hnaming, hoverrides⟩ := triage_eq_ready h
  refine ⟨ready.context.overrides, hoverrides, fun target htarget hpending decl hdecl => ?_⟩
  intro before after
  have hbefore : before = ready.context := by
    simp only [before, ← hcatalog, ← hnaming]
  have hafter : after = { ready.context with catalog := later } := by
    simp only [after, ← hnaming]
  refine ⟨hextends target decl hdecl, Context.withoutImports_congr rfl fun field hfield => ?_⟩
  rw [hbefore, hafter]
  refine surrogateField_of_extends hextends h htarget hpending ?_
  rw [Catalog.eligible, hdecl]
  exact hfield

/-! ## §4 A shelf whose pages become known -/

/-- The fields of a shelf: a page, whose type is not declared, and spare books. -/
def shelfFields : List FieldDecl :=
  [⟨"page", .node ⟨"crate::Page"⟩ [.node ⟨"crate::Book"⟩ [] false] false, .exported⟩,
   ⟨"spare", .node ⟨"Vec"⟩ [.node ⟨"crate::Book"⟩ [] false] true, .internal⟩]

/-- A shelf and its books. -/
def shelfCatalog : Catalog := .ofList
  [⟨⟨"crate::Shelf"⟩, false, shelfFields⟩,
   ⟨⟨"crate::Book"⟩, false, [⟨"title", .node ⟨"String"⟩ [] false, .exported⟩]⟩]

/-- The same with pages. -/
def pageCatalog : Catalog := shelfCatalog.insert ⟨⟨"crate::Page"⟩, false, []⟩

/-- An entry that has a serializer of its own for the page of a shelf. -/
def shelfEntry : Entry :=
  ((Entry.named "Shelves").target ⟨"crate::Shelf"⟩).overrideField ⟨"crate::Shelf"⟩ "page"
    ⟨"crate::ser::PageAsText"⟩

/-- The shelf is serialized as before when pages become known, although its
file imports one more serializer. -/
theorem withoutImports_shelf :
    pageCatalog.Extends shelfCatalog ∧
      ∃ overrides, Overrides.ofEntry shelfEntry = .ok overrides ∧
        let before : Context := ⟨shelfCatalog, .ofOptions .standard, overrides⟩
        let after : Context := ⟨pageCatalog, .ofOptions .standard, overrides⟩
        (after.synthesize? ⟨"crate::Shelf"⟩ shelfFields).map (·.withoutImports) =
            (before.synthesize? ⟨"crate::Shelf"⟩ shelfFields).map (·.withoutImports) ∧
          (before.synthesize? ⟨"crate::Shelf"⟩ shelfFields).map
              (·.serializer.imports.map (·.name.text)) =
            some ["crate::ser::PageAsText", "crate::BookSerializer"] ∧
          (after.synthesize? ⟨"crate::Shelf"⟩ shelfFields).map
              (·.serializer.imports.map (·.name.text)) =
            some ["crate::ser::PageAsText", "crate::PageSerializer", "crate::BookSerializer"] := by
  have hextends : pageCatalog.Extends shelfCatalog := Catalog.extends_insert rfl
  have hready : ∃ ready, (ofOptions .standard).triage shelfCatalog shelfEntry = .ready ready :=
    ⟨_, rfl⟩
  obtain ⟨ready, hready⟩ := hready
  obtain ⟨overrides, hoverrides, hsame⟩ := withoutImports_of_extends hextends hready
  obtain ⟨-, hshelf⟩ := hsame ⟨"crate::Shelf"⟩ (by decide) (by decide)
    ⟨⟨"crate::Shelf"⟩, false, shelfFields⟩ rfl
  refine ⟨hextends, overrides, hoverrides, hshelf, ?_⟩
  cases hoverrides
  exact ⟨rfl, rfl⟩

end Generator

end Surrogates
