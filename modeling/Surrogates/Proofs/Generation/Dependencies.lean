/-
Surrogates.Proofs.Generation.Dependencies — units behind the units that they
use.

An entry depends on another one that lists a type it needs. Where that
relation has no cycles, whatever an entry needs is listed by entries that are
processed before it (`mem_earlier_of_mem_needs`), and a target that one of
them lists gets no unit any more when its turn comes (`exists_split`). So a
unit stands behind the units whose derived serializers it uses, but for those
of its own entry's targets: `provided_before_used`.
-/
import Surrogates.Proofs.Generation.Precedence
import Surrogates.Proofs.Generation.Provenance
import Surrogates.Proofs.Generation.References

namespace Surrogates.Generator

variable {generator : Generator} {catalog : Catalog} {entries : List Entry} {pass : Nat}

/-! ## §1 Needs -/

theorem mem_needs {produced : List TypeName} {ready : Ready} {type : TypeName} :
    type ∈ generator.needs produced ready ↔
      (∃ o ∈ generator.derivations ready, o.head = type) ∧ type ∈ produced ∧
        type ∉ ready.entry.targets := by
  simp only [needs, List.mem_filter, List.mem_map, Bool.and_eq_true, Bool.not_eq_true',
    List.contains_eq_mem, decide_eq_true_eq, decide_eq_false_iff_not]

/-- Whether a ready entry needs a type that another one lists. -/
def DependsOn (generator : Generator) (catalog : Catalog) (entries : List Entry) (i j : Nat) :
    Prop :=
  let ready := generator.readyEntries catalog entries
  ∃ needing listing, ready[i]? = some needing ∧ ready[j]? = some listing ∧ j ≠ i ∧
    ∃ type ∈ listing.entry.targets, type ∈ generator.needs (produced catalog ready) needing

/-- The scheduler has an entry wait for those that it depends on. -/
theorem awaits_providers_iff {i j : Nat} :
    Schedule.Awaits (generator.providers (produced catalog (generator.readyEntries catalog entries))
        (generator.readyEntries catalog entries)) i j ↔
      generator.DependsOn catalog entries i j := by
  unfold Schedule.Awaits providers DependsOn
  generalize generator.readyEntries catalog entries = ready
  cases hi : ready[i]? with
  | none => simp [hi]
  | some needing =>
    cases hj : ready[j]? with
    | none => simp [hj]
    | some listing =>
      have hlt : j < ready.length := (List.getElem?_eq_some_iff.mp hj).1
      simp [hi, hlt]

theorem acyclic_providers
    (hacyclic : ∀ i, ¬Relation.TransGen (generator.DependsOn catalog entries) i i) :
    Schedule.Acyclic (generator.providers
      (produced catalog (generator.readyEntries catalog entries))
      (generator.readyEntries catalog entries)) := by
  intro i hcycle
  exact hacyclic i (Relation.TransGen.mono (fun _ _ => awaits_providers_iff.mp) i i hcycle)

theorem lt_of_mem_providers {produced : List TypeName} {ready : List Ready} {i j : Nat}
    (h : j ∈ generator.providers produced ready i) : j < ready.length := by
  unfold providers at h
  split at h
  · cases h
  · exact List.mem_range.mp (List.mem_filter.mp h).1

/-! ## §2 What comes before an entry -/

/-- An entry alone tells which ready entry it is. -/
theorem eq_of_mem_readyEntries {r other : Ready} (hr : r ∈ generator.readyEntries catalog entries)
    (hother : other ∈ generator.readyEntries catalog entries) (h : r.entry = other.entry) :
    r = other := by
  obtain ⟨-, hcatalog, hnaming, hoverrides⟩ := mem_readyEntries hr
  obtain ⟨-, hcatalog', hnaming', hoverrides'⟩ := mem_readyEntries hother
  exact Ready.eq_of_entry h (hcatalog.trans hcatalog'.symm) (hnaming.trans hnaming'.symm)
    hoverrides hoverrides'

/-- Where no entry depends on itself, be it through others, the entries that
list what an entry needs are processed before it. -/
theorem mem_earlier_of_mem_needs
    (hacyclic : ∀ i, ¬Relation.TransGen (generator.DependsOn catalog entries) i i)
    {earlier later : List Ready} {needing listing : Ready}
    (hagenda : generator.agenda catalog entries = earlier ++ needing :: later)
    (hlisting : listing ∈ generator.readyEntries catalog entries) {type : TypeName}
    (hlisted : type ∈ listing.entry.targets)
    (hneeded : type ∈ generator.needs
      (produced catalog (generator.readyEntries catalog entries)) needing) :
    listing ∈ earlier := by
  -- the place of the needing entry cuts the order of the indices in two
  obtain ⟨before, rest, horder, hbefore, hrest⟩ := List.filterMap_eq_append_iff.mp hagenda
  obtain ⟨skipped, i, after, rfl, hskipped, hi, -⟩ := List.filterMap_eq_cons_iff.mp hrest
  rw [← List.append_assoc] at horder
  obtain ⟨j, hj⟩ := List.mem_iff_getElem?.mp hlisting
  have hne : j ≠ i := by
    rintro rfl
    obtain rfl : needing = listing := Option.some.inj (hi.symm.trans hj)
    exact (mem_needs.mp hneeded).2.2 hlisted
  have hdepends : generator.DependsOn catalog entries i j :=
    ⟨needing, listing, hi, hj, hne, type, hlisted, hneeded⟩
  have hearlier : j ∈ before ++ skipped :=
    Schedule.mem_earlier_of_acyclic (fun _ _ _ => lt_of_mem_providers)
      (acyclic_providers hacyclic) horder (awaits_providers_iff.mpr hdepends)
  have hmem : listing ∈ (before ++ skipped).filterMap
      ((generator.readyEntries catalog entries)[·]?) := List.mem_filterMap.mpr ⟨j, hearlier, hj⟩
  have hnone := List.filterMap_eq_nil_iff.mpr hskipped
  rwa [List.filterMap_append, hbefore, hnone, List.append_nil] at hmem

/-! ## §3 What comes with an entry and after it -/

/-- The units of entries one after another, each with its entry. -/
def emitted (options : Options) (synthesized : List TypeName) (ready : List Ready) :
    List (Entry × SurrogateUnit) :=
  (ready.zip (processAll options synthesized ready).2).flatMap fun (r, processed) =>
    processed.units.map (r.entry, ·)

variable {options : Options} {synthesized : List TypeName} {ready : List Ready}

theorem emitted_cons (options : Options) (synthesized : List TypeName) (first : Ready)
    (rest : List Ready) :
    emitted options synthesized (first :: rest) =
      (process options synthesized first).units.map (first.entry, ·) ++
        emitted options
          (synthesized ++ (process options synthesized first).units.map (·.target)) rest :=
  rfl

/-- No unit is made of a target that has one. -/
theorem notMem_of_mem_emitted {emission : Entry × SurrogateUnit}
    (h : emission ∈ emitted options synthesized ready) : emission.2.target ∉ synthesized := by
  induction ready generalizing synthesized with
  | nil => cases h
  | cons first rest ih =>
    rw [emitted_cons, List.mem_append] at h
    rcases h with hfirst | hrest
    · obtain ⟨unit, hunit, rfl⟩ := List.mem_map.mp hfirst
      exact (mem_units_process_iff.mp hunit).2.1
    · exact fun hmem => ih hrest (List.mem_append_left _ hmem)

/-- From the unit of an entry on, no unit is of a target that had one when the
turn of the entry came. -/
theorem exists_split {i : Nat} {entry : Entry} {unit : SurrogateUnit}
    (h : (emitted options synthesized ready)[i]? = some (entry, unit)) :
    ∃ earlier r later, ready = earlier ++ r :: later ∧ r.entry = entry ∧
      ∀ j, i ≤ j → ∀ emission, (emitted options synthesized ready)[j]? = some emission →
        emission.2.target ∉ (processAll options synthesized earlier).1 := by
  induction ready generalizing synthesized i with
  | nil => cases h
  | cons first rest ih =>
    let made := (process options synthesized first).units.map (first.entry, ·)
    by_cases hi : i < made.length
    · refine ⟨[], first, rest, rfl, ?_, fun j _ emission hj => ?_⟩
      · rw [emitted_cons, List.getElem?_append_left hi] at h
        obtain ⟨_, -, heq⟩ := List.mem_map.mp (List.mem_of_getElem? h)
        cases heq
        rfl
      · exact notMem_of_mem_emitted (List.mem_of_getElem? hj)
    · rw [emitted_cons, List.getElem?_append_right (Nat.le_of_not_lt hi)] at h
      obtain ⟨earlier, r, later, rfl, hr, hfrom⟩ := ih h
      refine ⟨first :: earlier, r, later, rfl, hr, fun j hij emission hj => ?_⟩
      rw [emitted_cons, List.getElem?_append_right (Nat.le_trans (Nat.le_of_not_lt hi) hij)] at hj
      exact hfrom _ (Nat.sub_le_sub_right hij _) emission hj

/-! ## §4 The order of the units -/

/-- Where a unit uses the derived serializer of a type that gets its unit in the
same pass, the entry of the unit lists the type or needs it. -/
theorem mem_needs_of_references {ready : Ready}
    (hready : ready ∈ generator.readyEntries catalog entries) {unit made : SurrogateUnit}
    (hunit : (ready.entry, unit) ∈ generator.emissions catalog entries)
    (hmade : made ∈ (generator.runPass catalog pass entries).1.units)
    (huse : (Naming.ofOptions generator.options).serializer made.target ∈ unit.references)
    (hunlisted : made.target ∉ ready.entry.targets) :
    made.target ∈ generator.needs
      (produced catalog (generator.readyEntries catalog entries)) ready := by
  obtain ⟨field, hfield, hused⟩ := SurrogateUnit.mem_references.mp huse
  obtain ⟨found, hfound, heq, o, ho, -, -, hs⟩ := exists_occurrence_of_emission hunit hfield hused
  obtain rfl := eq_of_mem_readyEntries hfound hready heq
  have hhead : o.head = made.target :=
    (Naming.serializer_inj.mp (eq_serializer_of_occurrence hready ho hs rfl)).symm
  obtain ⟨entry, hemission⟩ := exists_emission hmade
  obtain ⟨listing, hlisting, rfl, hlisted, hnew, decl, hdecl, hsynthesize⟩ :=
    of_mem_emissions hemission
  have hproduced : made.target ∈ produced catalog (generator.readyEntries catalog entries) :=
    mem_produced.mpr ⟨⟨listing, hlisting, hlisted⟩, Context.eligible_ne_nil hdecl hsynthesize⟩
  exact mem_needs.mpr ⟨⟨o, mem_derivations.mpr ⟨ho, ⟨_, hs, rfl⟩, hhead ▸ hnew⟩, hhead⟩,
    hproduced, hunlisted⟩

/-- **Units behind the units that they use.** Where the ready entries of a pass
do not depend on each other in a circle, and a unit uses the derived serializer
of a type that gets its unit in the same pass, the unit of that type stands
before it in the report, unless one entry lists both. -/
theorem provided_before_used (generator : Generator) (catalog : Catalog) (pass : Nat)
    (entries : List Entry)
    (hacyclic : ∀ i, ¬Relation.TransGen (generator.DependsOn catalog entries) i i) :
    let emissions := generator.emissions catalog entries
    let units := (generator.runPass catalog pass entries).1.units
    emissions.map Prod.snd = units ∧
      ∀ (i j : Nat) (entry : Entry) (unit made : SurrogateUnit),
        emissions[i]? = some (entry, unit) → units[j]? = some made →
        made.target ∉ entry.targets →
        (∃ field ∈ unit.surrogate.fields,
          let s := (Naming.ofOptions generator.options).serializer made.target
          field.attached = some s ∨ s ∈ field.plan.serializers) →
        j < i := by
  intro emissions units
  have hunits : emissions.map Prod.snd = units := map_snd_emissions generator catalog pass entries
  refine ⟨hunits, fun i j entry unit made hi hj hunlisted huse => ?_⟩
  obtain ⟨earlier, needing, later, hagenda, rfl, hfrom⟩ := exists_split hi
  have hneeding : needing ∈ generator.readyEntries catalog entries :=
    mem_agenda.mp (hagenda ▸ List.mem_append_right earlier List.mem_cons_self)
  have hneeded := mem_needs_of_references hneeding (List.mem_of_getElem? hi)
    (List.mem_of_getElem? hj) (SurrogateUnit.mem_references.mpr huse) hunlisted
  -- an entry that lists the type is processed before, and the type has its unit then
  obtain ⟨⟨listing, hlisting, hlisted⟩, heligible⟩ := mem_produced.mp (mem_needs.mp hneeded).2.1
  have hearlier := mem_earlier_of_mem_needs hacyclic hagenda hlisting hlisted hneeded
  have hprovided :
      made.target ∈ (processAll generator.options generator.synthesized earlier).1 :=
    mem_processAll.mpr (.inr ⟨listing, hearlier, hlisted,
      (mem_readyEntries hlisting).2.1.symm ▸ heligible⟩)
  rw [← hunits, List.getElem?_map] at hj
  obtain ⟨emission, hemission, rfl⟩ := Option.map_eq_some_iff.mp hj
  exact Nat.lt_of_not_le fun hle => hfrom j hle emission hemission hprovided

/-! ## §5 Desks before employees -/

/-- The unit of employees, made for the staff. -/
def employeeUnit : SurrogateUnit where
  target := ⟨"Employee"⟩
  surrogate :=
    { name := ⟨"EmployeeSurrogate"⟩
      fields :=
        [⟨"desk", .node ⟨"Desk"⟩ [] false, some (.derived ⟨"DeskSerializer"⟩),
            .use (.derived ⟨"DeskSerializer"⟩)⟩,
         ⟨"position", .node ⟨"Position"⟩ [] true, some (.derived ⟨"PositionSerializer"⟩),
            .nullable (.use (.derived ⟨"PositionSerializer"⟩))⟩]
      fileScope := [] }
  serializer :=
    { name := ⟨"EmployeeSerializer"⟩
      toSurrogate := ⟨⟨"Employee"⟩, ⟨"EmployeeSurrogate"⟩, ["desk", "position"]⟩
      fromSurrogate := ⟨⟨"EmployeeSurrogate"⟩, ⟨"Employee"⟩, ["desk", "position"]⟩
      omitted := []
      imports := [.derived ⟨"DeskSerializer"⟩, .derived ⟨"PositionSerializer"⟩] }

/-- The staff depends on the office, and the office on nothing. -/
theorem dependsOn_office {i j : Nat}
    (h : (ofOptions .standard).DependsOn officeCatalog [staffEntry, officeEntry] i j) :
    i = 0 ∧ j = 1 := by
  have hproviders := awaits_providers_iff.mpr h
  have hj := lt_of_mem_providers hproviders
  match i with
  | 0 =>
    obtain rfl : j = 1 := List.mem_singleton.mp hproviders
    exact ⟨rfl, rfl⟩
  | 1 => cases hproviders
  | i + 2 => cases hproviders

theorem acyclic_office (i : Nat) :
    ¬Relation.TransGen
      ((ofOptions .standard).DependsOn officeCatalog [staffEntry, officeEntry]) i i := by
  intro hcycle
  have hlt : ∀ i j, (ofOptions .standard).DependsOn officeCatalog [staffEntry, officeEntry] i j →
      i < j := by
    intro i j h
    obtain ⟨rfl, rfl⟩ := dependsOn_office h
    exact Nat.zero_lt_one
  exact Nat.lt_irrefl i (Relation.transGen_minimal hlt i i hcycle)

/-- Employees use the serializer of desks, which the other entry lists: desks
come first although that entry stands behind. -/
theorem provided_before_used_office :
    (∀ i, ¬Relation.TransGen
      ((ofOptions .standard).DependsOn officeCatalog [staffEntry, officeEntry]) i i) ∧
    ∃ (i j : Nat) (made : SurrogateUnit),
      ((ofOptions .standard).emissions officeCatalog [staffEntry, officeEntry])[i]? =
        some (staffEntry, employeeUnit) ∧
      ((ofOptions .standard).runPass officeCatalog 1 [staffEntry, officeEntry]).1.units[j]? =
        some made ∧
      made.target = ⟨"Desk"⟩ ∧ j < i := by
  obtain ⟨-, hbefore⟩ := provided_before_used (ofOptions .standard) officeCatalog 1
    [staffEntry, officeEntry] acyclic_office
  refine ⟨acyclic_office, 2, 0, _, rfl, rfl, rfl, ?_⟩
  refine hbefore 2 0 staffEntry employeeUnit _ rfl rfl (by decide) ?_
  exact ⟨_, List.mem_cons_self, .inl rfl⟩

end Surrogates.Generator
