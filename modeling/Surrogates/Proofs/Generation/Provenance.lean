/-
Surrogates.Proofs.Generation.Provenance — where a unit and its serializers
come from.

A pass makes a unit for the first ready entry, in the order of processing,
that lists its target: `mem_units_runPass_iff`. The unit is made in the
context of that entry alone, so whatever serializer it mentions has its
`Origin` there: an override of the entry for a type or for a field of the
target, or a type that the target's fields mention (`origin_of_refers`).
Entries are told apart by their places in the list. As long as the places
that are processed stay the same, and the targets, all else may change in the
other entries: `provenance_runPass`.
-/
import Mathlib.Data.List.Basic
import Mathlib.Data.List.Find
import Surrogates.Proofs.Generation.Pass
import Surrogates.Proofs.Resolution.Context

namespace Surrogates

/-! ## §1 Origins of serializers -/

/-- Whether a declared type has an eligible field whose type mentions a name. -/
def Catalog.Mentions (catalog : Catalog) (target name : TypeName) : Prop :=
  ∃ field ∈ catalog.eligible target, ∃ node ∈ field.type.nodes, node.head = name

/-- Where the serializers in the unit of a target come from, if it is made for
an entry. -/
inductive Origin (catalog : Catalog) (naming : Naming) (entry : Entry) (target : TypeName) :
    Serializer → Prop where
  /-- The entry overrides a type that is mentioned. -/
  | ofClass {decl : ClassOverride} (declared : decl ∈ entry.classOverrides)
      (mentioned : catalog.Mentions target decl.type) :
      Origin catalog naming entry target (.explicit decl.serializer)
  /-- The entry overrides a field of the target. -/
  | ofField {decl : FieldOverride} (declared : (target, decl) ∈ Overrides.fieldDecls entry)
      (own : ∃ field ∈ catalog.eligible target, field.name = decl.field) :
      Origin catalog naming entry target (.explicit decl.serializer)
  /-- The serializer is derived from a type that is mentioned. -/
  | ofType {type : TypeName} (composite : type.isBuiltin = false)
      (declared : catalog.declares type = true) (adapted : catalog.isNative type = false)
      (mentioned : catalog.Mentions target type) :
      Origin catalog naming entry target (naming.serializer type)

/-- Whether a serializer occurs in a unit: attached to a field, in the plan of
one, or among the imports. -/
def SurrogateUnit.Refers (unit : SurrogateUnit) (s : Serializer) : Prop :=
  (∃ field ∈ unit.surrogate.fields, field.attached = some s ∨ s ∈ field.plan.serializers) ∨
    s ∈ unit.serializer.imports

namespace Context

variable {ctx : Context} {entry : Entry} {target : TypeName} {s : Serializer}

theorem origin_of_resolve (hdeclared : ctx.overrides.DeclaredBy entry) {node : TypeExpr}
    (hnode : ctx.catalog.Mentions target node.head) (h : ctx.resolve node = some s) :
    Origin ctx.catalog ctx.naming entry target s := by
  rcases resolve_eq_some h with hget | ⟨hneeded, rfl⟩
  · obtain ⟨decl, hdecl, htype, rfl⟩ := hdeclared.types _ _ hget
    exact .ofClass hdecl (htype ▸ hnode)
  · obtain ⟨hbuiltin, hdeclares, hnative⟩ := needsDerived_iff.mp hneeded
    exact .ofType hbuiltin hdeclares hnative hnode

theorem origin_of_resolveField (hdeclared : ctx.overrides.DeclaredBy entry) {field : FieldDecl}
    (hfield : field ∈ ctx.catalog.eligible target)
    (h : ctx.resolveField target field.name field.type = some s) :
    Origin ctx.catalog ctx.naming entry target s := by
  rcases resolveField_eq_some h with hget | htype
  · obtain ⟨decl, hdecl, hname, rfl⟩ := hdeclared.fields _ _ _ hget
    exact .ofField hdecl ⟨field, hfield, hname.symm⟩
  · refine origin_of_resolve hdeclared ⟨field, hfield, field.type, ?_, rfl⟩ htype
    cases field.type
    exact List.mem_cons_self

/-- Every serializer that occurs in a unit is imported. -/
theorem mem_imports_of_refers {fields : List FieldDecl} {unit : SurrogateUnit}
    (hunit : ctx.synthesize? target fields = some unit) (h : unit.Refers s) :
    s ∈ unit.serializer.imports := by
  rcases h with ⟨field, hfield, hattached | hplan⟩ | himport
  · rw [imports_eq hunit]
    refine List.mem_append_left _ (List.mem_eraseDups.mpr ?_)
    exact List.mem_filterMap.mpr ⟨field, hfield, hattached⟩
  · exact mem_imports_of_mem_serializers hunit hfield hplan
  · exact himport

/-- Every serializer that occurs in the unit of a declared type has its origin
in the entry whose overrides the context holds. -/
theorem origin_of_refers (hdeclared : ctx.overrides.DeclaredBy entry) {decl : TypeDecl}
    (hdecl : ctx.catalog.find? target = some decl) {unit : SurrogateUnit}
    (hunit : ctx.synthesize? target decl.fields = some unit) (h : unit.Refers s) :
    Origin ctx.catalog ctx.naming entry target s := by
  have heligible : ctx.catalog.eligible target =
      decl.fields.filter (·.visibility.isEligible) := by
    rw [Catalog.eligible, hdecl]
    rfl
  have himport := mem_imports_of_refers hunit h
  rw [imports_eq hunit, List.mem_append] at himport
  rcases himport with hattached | hscope
  · obtain ⟨field, hfield, hattached⟩ := List.mem_filterMap.mp (List.mem_eraseDups.mp hattached)
    obtain ⟨fieldDecl, hmem, rfl⟩ := exists_decl_of_mem_fields hunit hfield
    exact origin_of_resolveField hdeclared (heligible ▸ hmem) hattached
  · rw [fileScope_eq hunit, List.mem_filter] at hscope
    obtain ⟨fieldDecl, hmem, node, hnode, hresolve⟩ := mem_neededBy.mp hscope.1
    exact origin_of_resolve hdeclared ⟨fieldDecl, heligible ▸ hmem, node, hnode, rfl⟩ hresolve

end Context

/-! ## §2 The entry of a unit -/

/-- Whether a ready entry lists a target. -/
def Ready.lists (ready : Ready) (target : TypeName) : Bool :=
  ready.entry.targets.contains target

namespace Generator

variable {generator : Generator} {catalog : Catalog} {entries : List Entry} {pass : Nat}
  {options : Options} {synthesized : List TypeName} {unit : SurrogateUnit}

theorem mem_units_process_iff {ready : Ready} :
    unit ∈ (process options synthesized ready).units ↔
      ready.lists unit.target = true ∧ unit.target ∉ synthesized ∧
        ∃ decl, ready.context.catalog.find? unit.target = some decl ∧
          ready.context.synthesize? unit.target decl.fields = some unit := by
  rw [mem_units_process, Ready.lists, List.contains_iff_mem]
  constructor
  · rintro ⟨target, htarget, houtcome⟩
    obtain ⟨hnew, decl, hdecl, hunit⟩ := unit?_outcome_eq_some_iff.mp houtcome
    obtain rfl := (Context.synthesize?_eq_some hunit).1
    exact ⟨htarget, hnew, decl, hdecl, hunit⟩
  · rintro ⟨htarget, hmade⟩
    exact ⟨unit.target, htarget, unit?_outcome_eq_some_iff.mpr hmade⟩

/-- Of entries one after another, the first that lists a target gets its unit. -/
theorem mem_units_processAll_iff {ready : List Ready}
    (hcatalog : ∀ r ∈ ready, r.context.catalog = catalog) :
    unit ∈ (processAll options synthesized ready).2.flatMap (·.units) ↔
      unit.target ∉ synthesized ∧ ∃ r, ready.find? (·.lists unit.target) = some r ∧
        ∃ decl, catalog.find? unit.target = some decl ∧
          r.context.synthesize? unit.target decl.fields = some unit := by
  induction ready generalizing synthesized with
  | nil => simp [processAll]
  | cons first rest ih =>
    obtain ⟨hfirst, hrest⟩ := List.forall_mem_cons.mp hcatalog
    rw [processAll_cons, List.flatMap_cons, List.mem_append, ih hrest, mem_units_process_iff,
      hfirst, targets_process, List.mem_append, List.mem_filter, List.mem_eraseDups,
      Ready.makes_iff, hfirst, List.find?_cons]
    cases hlists : first.lists unit.target with
    | false =>
      have hnot : unit.target ∉ first.entry.targets := by
        rwa [Ready.lists, ← Bool.not_eq_true, List.contains_iff_mem] at hlists
      simp [hnot]
    | true =>
      have hmem : unit.target ∈ first.entry.targets := by
        rwa [Ready.lists, List.contains_iff_mem] at hlists
      -- a unit for a later entry shows that there are eligible fields, so the first has it
      have hlater : ¬((¬(unit.target ∈ synthesized ∨ unit.target ∈ first.entry.targets ∧
            unit.target ∉ synthesized ∧ catalog.eligible unit.target ≠ [])) ∧
          ∃ r, rest.find? (·.lists unit.target) = some r ∧
            ∃ decl, catalog.find? unit.target = some decl ∧
              r.context.synthesize? unit.target decl.fields = some unit) := by
        rintro ⟨hnot, r, -, decl, hdecl, hunit⟩
        obtain ⟨hnew, hnone⟩ := not_or.mp hnot
        exact hnone ⟨hmem, hnew, Context.eligible_ne_nil hdecl hunit⟩
      simp only [true_and, or_iff_left hlater, Option.some.injEq, exists_eq_left']

/-! ## §3 The places of entries -/

/-- The ready entries of a pass with their places among all entries. -/
def placedEntries (generator : Generator) (catalog : Catalog) (entries : List Entry) :
    List (Nat × Ready) :=
  entries.zipIdx.filterMap fun (entry, place) =>
    (generator.triage catalog entry).ready?.map (place, ·)

/-- The ready entries of a pass in the order in which they are processed, with
their places among all entries. -/
def placedAgenda (generator : Generator) (catalog : Catalog) (entries : List Entry) :
    List (Nat × Ready) :=
  let ready := generator.readyEntries catalog entries
  (Schedule.order ready.length (generator.providers (produced catalog ready) ready)).filterMap
    ((generator.placedEntries catalog entries)[·]?)

/-- The places of the ready entries of a pass, in the order of processing. -/
def agendaPlaces (generator : Generator) (catalog : Catalog) (entries : List Entry) : List Nat :=
  (generator.placedAgenda catalog entries).map Prod.fst

theorem map_snd_placedEntries (generator : Generator) (catalog : Catalog)
    (entries : List Entry) :
    (generator.placedEntries catalog entries).map Prod.snd =
      generator.readyEntries catalog entries := by
  have hfst : entries = entries.zipIdx.map Prod.fst := (List.zipIdx_map_fst ..).symm
  rw [placedEntries, readyEntries, List.filterMap_map, List.map_filterMap]
  conv_rhs => rw [hfst]
  rw [List.filterMap_map]
  refine List.filterMap_congr fun placed _ => ?_
  obtain ⟨entry, place⟩ := placed
  simp only [Option.map_map, Function.comp_def, Option.map_id']

/-- Their places apart, the entries stand as they are processed. -/
theorem map_snd_placedAgenda (generator : Generator) (catalog : Catalog)
    (entries : List Entry) :
    (generator.placedAgenda catalog entries).map Prod.snd = generator.agenda catalog entries := by
  rw [placedAgenda, List.map_filterMap, agenda, scheduled, ← map_snd_placedEntries]
  refine List.filterMap_congr fun i _ => ?_
  rw [List.getElem?_map]

theorem of_mem_placedAgenda {place : Nat} {ready : Ready}
    (h : (place, ready) ∈ generator.placedAgenda catalog entries) :
    entries[place]? = some ready.entry ∧
      ready.context.catalog = catalog ∧ ready.context.naming = .ofOptions generator.options ∧
      Overrides.ofEntry ready.entry = .ok ready.context.overrides := by
  obtain ⟨i, -, hget⟩ := List.mem_filterMap.mp h
  obtain ⟨⟨entry, index⟩, hplaced, hready⟩ :=
    List.mem_filterMap.mp (List.mem_of_getElem? hget)
  obtain ⟨found, hfound, heq⟩ := Option.map_eq_some_iff.mp hready
  cases heq
  have hentry : entries[place]? = some entry := List.mem_zipIdx_iff_getElem?.mp hplaced
  obtain ⟨rfl, hcontext⟩ := triage_eq_ready (Triage.ready?_eq_some_iff.mp hfound)
  exact ⟨hentry, hcontext⟩

/-- The first entry, in the order of processing, that lists a target, with its
place among all entries. -/
def maker? (generator : Generator) (catalog : Catalog) (entries : List Entry)
    (target : TypeName) : Option (Nat × Ready) :=
  (generator.placedAgenda catalog entries).find? (·.2.lists target)

/-- A pass makes exactly the units of declared types for the first entries that
list them, where there was none before. -/
theorem mem_units_runPass_iff :
    unit ∈ (generator.runPass catalog pass entries).1.units ↔
      unit.target ∉ generator.synthesized ∧
        ∃ place ready decl, generator.maker? catalog entries unit.target = some (place, ready) ∧
          catalog.find? unit.target = some decl ∧
          ready.context.synthesize? unit.target decl.fields = some unit := by
  have hcatalog : ∀ r ∈ generator.agenda catalog entries, r.context.catalog = catalog :=
    fun r hr => (mem_readyEntries (mem_agenda.mp hr)).2.1
  refine (mem_units_processAll_iff hcatalog).trans (and_congr_right fun _ => ?_)
  rw [← map_snd_placedAgenda, List.find?_map]
  constructor
  · rintro ⟨ready, hfind, decl, hdecl, hunit⟩
    obtain ⟨⟨place, found⟩, hmaker, rfl⟩ := Option.map_eq_some_iff.mp hfind
    exact ⟨place, found, decl, hmaker, hdecl, hunit⟩
  · rintro ⟨place, ready, decl, hmaker, hdecl, hunit⟩
    exact ⟨ready, Option.map_eq_some_iff.mpr ⟨(place, ready), hmaker, rfl⟩, decl, hdecl, hunit⟩

/-- Which place lists a target first can be told from the places that are
processed and from the targets alone. -/
theorem map_fst_maker? (generator : Generator) (catalog : Catalog) (entries : List Entry)
    (target : TypeName) :
    (generator.maker? catalog entries target).map Prod.fst =
      (generator.agendaPlaces catalog entries).find? fun place =>
        (entries.map (·.targets))[place]?.any (·.contains target) := by
  rw [agendaPlaces, List.find?_map, maker?]
  congr 1
  refine List.find?_congr fun (place, ready) hmem => ?_
  have hentry := (of_mem_placedAgenda hmem).1
  simp only [Function.comp_apply, List.getElem?_map, hentry, Option.map_some, Option.any_some,
    Ready.lists]

/-! ## §4 Units and other entries -/

/-- Where the places that are processed and the targets stay the same, and the
entry of a target, the target is made for the same entry in the same context. -/
theorem maker?_congr {other : List Entry} {target : TypeName} {place : Nat} {ready : Ready}
    (hmaker : generator.maker? catalog entries target = some (place, ready))
    (htargets : other.map (·.targets) = entries.map (·.targets))
    (hplaces : generator.agendaPlaces catalog other = generator.agendaPlaces catalog entries)
    (hentry : other[place]? = some ready.entry) :
    generator.maker? catalog other target = some (place, ready) := by
  have hfst := map_fst_maker? generator catalog other target
  rw [hplaces, htargets, ← map_fst_maker?, hmaker] at hfst
  obtain ⟨⟨place', found⟩, hfound, rfl⟩ := Option.map_eq_some_iff.mp hfst
  obtain ⟨-, hcatalog, hnaming, hoverrides⟩ :=
    of_mem_placedAgenda (List.mem_of_find?_eq_some hmaker)
  obtain ⟨hentry', hcatalog', hnaming', hoverrides'⟩ :=
    of_mem_placedAgenda (List.mem_of_find?_eq_some hfound)
  have hsame : ready.entry = found.entry := Option.some.inj (hentry.symm.trans hentry')
  obtain rfl : ready = found := Ready.eq_of_entry hsame (hcatalog.trans hcatalog'.symm)
    (hnaming.trans hnaming'.symm) hoverrides hoverrides'
  exact hfound

/-- **Where units come from.** A unit of a pass is the one that is synthesized
with the overrides of one entry, the first in the order of processing that
lists its target. All serializers in the unit have their origin there. Whatever
changes in other entries, but for their targets, leaves the unit as it is, as
long as the same places are processed in the same order. -/
theorem provenance_runPass (generator : Generator) (catalog : Catalog) (pass : Nat)
    (entries : List Entry) :
    let naming := Naming.ofOptions generator.options
    ∀ unit ∈ (generator.runPass catalog pass entries).1.units, ∃ place entry overrides decl,
      generator.maker? catalog entries unit.target =
          some (place, ⟨entry, ⟨catalog, naming, overrides⟩⟩) ∧
        entries[place]? = some entry ∧ Overrides.ofEntry entry = .ok overrides ∧
        catalog.find? unit.target = some decl ∧
        (⟨catalog, naming, overrides⟩ : Context).synthesize? unit.target decl.fields = some unit ∧
        (∀ s, unit.Refers s → Origin catalog naming entry unit.target s) ∧
        ∀ other : List Entry, other.map (·.targets) = entries.map (·.targets) →
          generator.agendaPlaces catalog other = generator.agendaPlaces catalog entries →
          other[place]? = some entry →
          ∀ made : SurrogateUnit, made.target = unit.target →
            (made ∈ (generator.runPass catalog pass other).1.units ↔ made = unit) := by
  intro naming unit hunit
  obtain ⟨hnew, place, ready, decl, hmaker, hdecl, hsynthesize⟩ := mem_units_runPass_iff.mp hunit
  obtain ⟨hentry, hcatalog, hnaming, hoverrides⟩ :=
    of_mem_placedAgenda (List.mem_of_find?_eq_some hmaker)
  obtain ⟨entry, found, naming', overrides⟩ := ready
  obtain rfl : found = catalog := hcatalog
  obtain rfl : naming' = naming := hnaming
  refine ⟨place, entry, overrides, decl, hmaker, hentry, hoverrides, hdecl, hsynthesize, ?_, ?_⟩
  · exact fun s => Context.origin_of_refers (Overrides.declaredBy_of_ofEntry hoverrides) hdecl
      hsynthesize
  · intro other htargets hplaces hsame made htarget
    have hother := maker?_congr hmaker htargets hplaces hsame
    rw [mem_units_runPass_iff, htarget]
    constructor
    · rintro ⟨-, place', ready', decl', hmaker', hdecl', hmade⟩
      cases hother.symm.trans hmaker'
      cases hdecl.symm.trans hdecl'
      exact Option.some.inj (hmade.symm.trans hsynthesize)
    · rintro rfl
      exact ⟨hnew, place, _, decl, hother, hdecl, hsynthesize⟩

/-! ## §5 Positions in two entries -/

/-- Employees have desks and positions. -/
def officeCatalog : Catalog := .ofList
  [⟨⟨"Employee"⟩, false,
      [⟨"desk", .node ⟨"Desk"⟩ [] false, .exported⟩,
       ⟨"position", .node ⟨"Position"⟩ [] true, .exported⟩]⟩,
   ⟨⟨"Desk"⟩, false, [⟨"number", .node ⟨"i32"⟩ [] false, .exported⟩]⟩,
   ⟨⟨"Position"⟩, false, [⟨"level", .node ⟨"i32"⟩ [] false, .exported⟩]⟩]

/-- An entry that lists employees and positions. -/
def staffEntry : Entry := ((Entry.named "Staff").target ⟨"Employee"⟩).target ⟨"Position"⟩

/-- An entry that lists desks and positions and has numbers padded. -/
def officeEntry : Entry :=
  (((Entry.named "Office").target ⟨"Desk"⟩).target ⟨"Position"⟩).overrideClass ⟨"i32"⟩ ⟨"Padded"⟩

/-- The unit of positions whose levels are padded. -/
def positionUnit : SurrogateUnit where
  target := ⟨"Position"⟩
  surrogate :=
    { name := ⟨"PositionSurrogate"⟩
      fields := [⟨"level", .node ⟨"i32"⟩ [] false, some (.explicit ⟨"Padded"⟩),
        .use (.explicit ⟨"Padded"⟩)⟩]
      fileScope := [] }
  serializer :=
    { name := ⟨"PositionSerializer"⟩
      toSurrogate := ⟨⟨"Position"⟩, ⟨"PositionSurrogate"⟩, ["level"]⟩
      fromSurrogate := ⟨⟨"PositionSurrogate"⟩, ⟨"Position"⟩, ["level"]⟩
      omitted := []
      imports := [.explicit ⟨"Padded"⟩] }

/-- The staff waits for desks, so positions are made for the office although it
stands behind; what the staff overrides does not matter to them. -/
theorem provenance_position :
    positionUnit ∈
        ((ofOptions .standard).runPass officeCatalog 1 [staffEntry, officeEntry]).1.units ∧
      Origin officeCatalog (.ofOptions .standard) officeEntry ⟨"Position"⟩
        (.explicit ⟨"Padded"⟩) ∧
      positionUnit ∈ ((ofOptions .standard).runPass officeCatalog 1
        [staffEntry.overrideClass ⟨"i32"⟩ ⟨"Plain"⟩, officeEntry]).1.units := by
  have hunit : positionUnit ∈
      ((ofOptions .standard).runPass officeCatalog 1 [staffEntry, officeEntry]).1.units :=
    List.mem_of_getElem? (i := 1) rfl
  obtain ⟨place, entry, overrides, decl, hmaker, -, -, -, -, horigin, hother⟩ :=
    provenance_runPass (ofOptions .standard) officeCatalog 1 [staffEntry, officeEntry] _ hunit
  obtain ⟨rfl, rfl⟩ : place = 1 ∧ entry = officeEntry := by
    cases hmaker
    exact ⟨rfl, rfl⟩
  refine ⟨hunit, horigin _ (.inr (List.mem_singleton_self _)), ?_⟩
  exact (hother [staffEntry.overrideClass ⟨"i32"⟩ ⟨"Plain"⟩, officeEntry] rfl rfl rfl _ rfl).mpr rfl

end Generator

end Surrogates
