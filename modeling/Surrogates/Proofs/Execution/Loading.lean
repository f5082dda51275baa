/-
Surrogates.Proofs.Execution.Loading — interpreters that load generations.

Loading puts each unit under the name of its serializer, and registers what
the modules register (`load_eq`). Where passes warned of no missing
surrogate, all that their units and modules refer to is accounted for, by a
unit or by an override. An interpreter that loads what they made and has
codecs for the overrides supports it; with what it had before, which has to be
backed (`Backs.load`), it is closed, and none of its runs meets an unknown
serializer: `found_load`. Codecs in the place of units and generations that were
loaded before can break this: `lost_load_fans`.
-/
import Surrogates.Proofs.Execution.Closure
import Surrogates.Proofs.Generation.References
import Surrogates.Proofs.Json.WellFormed

namespace Surrogates.Execution.Interpreter

open Generator (teamCatalog teamEntry)

/-! ## §1 Loading -/

theorem foldl_addUnit (it : Interpreter) (units : List SurrogateUnit) :
    units.foldl addUnit it =
      { it with
        units := it.units.insertAll (units.map fun unit => (unit.serializer.name, unit)) } := by
  induction units generalizing it with
  | nil => rfl
  | cons unit rest ih =>
    rw [List.foldl_cons, ih]
    rfl

theorem foldl_addModule (it : Interpreter) (specs : List SerializerModule) :
    specs.foldl addModule it =
      { it with
        registry := it.registry.insertAll
          ((specs.flatMap (·.pairs)).map fun pair => (pair.target, pair.serializer.name)) } := by
  induction specs generalizing it with
  | nil => rfl
  | cons spec rest ih =>
    rw [List.foldl_cons, ih, List.flatMap_cons, List.map_append, Table.insertAll_append]
    rfl

/-- Each unit gets the name of its serializer, and what modules register is
registered. -/
theorem load_eq (it : Interpreter) (generation : Generation) :
    it.load generation =
      { codecs := it.codecs
        units := it.units.insertAll
          (generation.units.map fun unit => (unit.serializer.name, unit))
        registry := it.registry.insertAll
          ((generation.modules.flatMap (·.pairs)).map fun pair =>
            (pair.target, pair.serializer.name)) } := by
  rw [load, foldl_addUnit, foldl_addModule]

/-- An interpreter with codecs only. -/
def ofCodecs (codecs : Table TypeName Codec) : Interpreter := ⟨codecs, ∅, ∅⟩

variable {base : Interpreter} {generation : Generation} {name : TypeName}

theorem codecs_load (base : Interpreter) (generation : Generation) :
    (base.load generation).codecs = base.codecs := by
  rw [load_eq]

/-- A unit is one of the generation, or was there before. -/
theorem get?_units_load {unit : SurrogateUnit}
    (h : (base.load generation).units.get? name = some unit) :
    base.units.get? name = some unit ∨ unit ∈ generation.units := by
  rw [load_eq] at h
  refine (Table.get?_insertAll_eq_some h).imp_right fun hmem => ?_
  obtain ⟨_, hunit, heq⟩ := List.mem_map.mp hmem
  cases heq
  exact hunit

theorem contains_units_load {unit : SurrogateUnit} (h : unit ∈ generation.units) :
    (base.load generation).units.contains unit.serializer.name = true := by
  rw [load_eq]
  refine Table.contains_insertAll.mpr ?_
  exact .inr (List.mem_map.mpr ⟨(unit.serializer.name, unit),
    List.mem_map.mpr ⟨unit, h, rfl⟩, rfl⟩)

/-- A registration is one of the generation's modules, or was there before. -/
theorem serializerFor?_load {type : TypeName}
    (h : (base.load generation).serializerFor? type = some name) :
    base.serializerFor? type = some name ∨ ∃ s ∈ generation.references, s.name = name := by
  rw [load_eq] at h
  refine (Table.get?_insertAll_eq_some h).imp_right fun hmem => ?_
  obtain ⟨pair, hpair, heq⟩ := List.mem_map.mp hmem
  cases heq
  obtain ⟨spec, hspec, hpair⟩ := List.mem_flatMap.mp hpair
  exact ⟨pair.serializer, List.mem_append_right _ (List.mem_flatMap.mpr
    ⟨spec, hspec, List.mem_map.mpr ⟨pair, hpair, rfl⟩⟩), rfl⟩

/-! ## §2 Generations without warnings -/

/-- A generation refers to provided names only. -/
def Supports (it : Interpreter) (generation : Generation) : Prop :=
  ∀ s ∈ generation.references, it.Provides s.name

/-- What an interpreter still has of an earlier one refers to provided names only. -/
structure Backs (it earlier : Interpreter) : Prop where
  plans : ∀ name unit, earlier.units.get? name = some unit → it.units.get? name = some unit →
    ∀ field ∈ unit.surrogate.fields, it.Serves field.plan
  registered : ∀ type name, earlier.serializerFor? type = some name →
    it.serializerFor? type = some name → it.Provides name

/-- Codecs refer to nothing. -/
theorem backs_ofCodecs (it : Interpreter) (codecs : Table TypeName Codec) :
    it.Backs (ofCodecs codecs) where
  plans _ _ h := nomatch h
  registered _ _ h := nomatch h

/-- A generation that is loaded has to be supported. -/
theorem Backs.load {it : Interpreter} (hbacks : it.Backs base) (h : it.Supports generation) :
    it.Backs (base.load generation) where
  plans name unit hbefore hget field hfield := by
    rcases get?_units_load hbefore with hearlier | hunit
    · exact hbacks.plans name unit hearlier hget field hfield
    · intro s hs
      refine h s (List.mem_append_left _ (List.mem_flatMap.mpr ⟨unit, hunit, ?_⟩))
      exact SurrogateUnit.mem_references.mpr ⟨field, hfield, .inr hs⟩
  registered type name hbefore hget := by
    rcases serializerFor?_load hbefore with hearlier | ⟨s, hs, rfl⟩
    · exact hbacks.registered type name hearlier hget
    · exact h s hs

/-- An interpreter that backs itself is closed. -/
theorem Backs.closed {it : Interpreter} (h : it.Backs it) : it.Closed :=
  fun name unit hget => h.plans name unit hget hget

/-- What passes account for is provided: by a unit, or by the codec of an
override. -/
theorem provides_of_accounts {options : Options} {requests : List PassRequest}
    (hoverrides : ∀ request ∈ requests, ∀ entry ∈ request.entries, ∀ name ∈ entry.overrideNames,
      ∃ codec, base.codecs.get? name = some codec ∧ codec.Knows)
    (hunits : ∀ unit ∈ (Generation.ofReports
        ((Generator.ofOptions options).runPasses requests).1).units,
      ∀ codec, base.codecs.get? unit.serializer.name = some codec → codec.Knows)
    {s : Serializer} (hs : ((Generator.ofOptions options).runPasses requests).2.Accounts
      (requests.flatMap (·.entries)) s) :
    (base.load (Generation.ofReports
      ((Generator.ofOptions options).runPasses requests).1)).Provides s.name := by
  unfold Provides
  rw [codecs_load]
  rcases hs with ⟨type, htype, rfl⟩ | ⟨entry, hentry, name, hname, rfl⟩
  · rw [Generator.synthesized_runPasses, List.mem_append] at htype
    rcases htype with hfresh | htype
    · cases hfresh
    obtain ⟨unit, hunit, rfl⟩ := List.mem_map.mp htype
    obtain ⟨report, hreport, hunit⟩ := List.mem_flatMap.mp hunit
    have hname := Generator.serializerName_of_mem_runPasses hreport hunit
    have hmem := Generation.mem_units_ofReports.mpr ⟨report, hreport, hunit⟩
    rw [Generator.options_runPasses, ← hname]
    split
    · next codec hcodec => exact hunits unit hmem codec hcodec
    · exact contains_units_load hmem
  · obtain ⟨request, hrequest, hentry⟩ := List.mem_flatMap.mp hentry
    obtain ⟨codec, hcodec, hknows⟩ := hoverrides request hrequest entry hentry name hname
    have hget : base.codecs.get? (Serializer.explicit name).name = some codec := hcodec
    rw [hget]
    exact hknows

/-- An interpreter that loads what passes without warnings made never meets an
unknown serializer, if the names in overrides have codecs that do not meet
one themselves. A codec in the place of a unit may not meet one either, and what
was loaded before has to be backed. -/
theorem found_load (options : Options) (requests : List PassRequest) (base : Interpreter)
    (hnone : ∀ report ∈ ((Generator.ofOptions options).runPasses requests).1, report.NoneMissing)
    (hoverrides : ∀ request ∈ requests, ∀ entry ∈ request.entries, ∀ name ∈ entry.overrideNames,
      ∃ codec, base.codecs.get? name = some codec ∧ codec.Knows)
    (hunits : ∀ unit ∈ (Generation.ofReports
        ((Generator.ofOptions options).runPasses requests).1).units,
      ∀ codec, base.codecs.get? unit.serializer.name = some codec → codec.Knows)
    (hbacks : (base.load (Generation.ofReports
      ((Generator.ofOptions options).runPasses requests).1)).Backs base) :
    let generation := Generation.ofReports ((Generator.ofOptions options).runPasses requests).1
    let it := base.load generation
    (∀ direction type value, (it.runFor direction type value).Found) ∧
      ∀ s ∈ generation.references, ∀ direction value, (it.run direction s.name value).Found := by
  intro generation it
  have hsupports : it.Supports generation := by
    intro s hs
    exact provides_of_accounts hoverrides hunits (Generator.accounts_references hnone hs)
  have hself : it.Backs it := hbacks.load hsupports
  refine ⟨fun direction type value => ?_, fun s hs direction value =>
    found_run hself.closed (hsupports s hs) direction value⟩
  unfold runFor
  split
  · next name hname =>
    exact found_run hself.closed (hself.registered type name hname hname) direction value
  · intro name h
    cases h

/-! ## §3 People, clubs and fans -/

/-- Persons and teams, which need one another, and integers shifted. -/
def peopleEntry : Entry :=
  (teamEntry.target ⟨"Person"⟩).overrideClass ⟨"i32"⟩ ⟨"AgeSerializer"⟩

/-- Clubs, which have teams. -/
def clubCatalog : Catalog :=
  teamCatalog.insert ⟨⟨"Club"⟩, false, [⟨"home", .node ⟨"Team"⟩ [] false, .exported⟩]⟩

/-- A pass for people, and a later one for clubs. -/
def peopleRequests : List PassRequest :=
  [⟨teamCatalog, 1, [peopleEntry]⟩, ⟨clubCatalog, 2, [(Entry.named "Clubs").target ⟨"Club"⟩]⟩]

/-- The codec that `peopleEntry` names. -/
def ageCodecs : Table TypeName Codec :=
  (∅ : Table TypeName Codec).insert ⟨"AgeSerializer"⟩ (.shift 100)

theorem eq_shift_of_get?_ageCodecs {name : TypeName} {codec : Codec}
    (h : ageCodecs.get? name = some codec) : codec = .shift 100 := by
  unfold ageCodecs at h
  rw [Table.get?_insert] at h
  split at h
  · exact (Option.some.inj h).symm
  · cases h

/-- What the passes for people and clubs made. -/
def peopleGeneration : Generation :=
  Generation.ofReports ((Generator.ofOptions .standard).runPasses peopleRequests).1

/-- Persons, teams and clubs with the codec of ages. -/
def people : Interpreter := (ofCodecs ageCodecs).load peopleGeneration

/-- A person in a team whose lead has a nickname and no team. -/
def person : Json :=
  .object
    [("team", .object
        [("members", .array []),
         ("lead", .object [("nick", .string "J"), ("age", .ofInt 30)])]),
     ("age", .ofInt 41)]

theorem wellFormed_person : person.WellFormed := by
  have hread : Json.parse (person.render) = some person := by rfl
  exact Json.wellFormed_of_parse hread

/-- Fans, who have a club. -/
def fanCatalog : Catalog :=
  clubCatalog.insert ⟨⟨"Fan"⟩, false, [⟨"club", .node ⟨"Club"⟩ [] false, .exported⟩]⟩

/-- A fan of a club with a home. -/
def fan (home : Json) : Json := .object [("club", .object [("home", home)])]

/-- What a pass for fans alone makes, with a warning about clubs. -/
def fanGeneration : Generation :=
  Generation.ofReports ((Generator.ofOptions .standard).runPasses
    [⟨fanCatalog, 1, [(Entry.named "Fans").target ⟨"Fan"⟩]⟩]).1

/-- The codec of ages, and one in the place of the unit of teams. -/
def teamCodecs (codec : Codec) : Table TypeName Codec :=
  ageCodecs.insert ⟨"TeamSerializer"⟩ codec

/-- An interpreter that has loaded fans. -/
def fans (codec : Codec) : Interpreter := (ofCodecs (teamCodecs codec)).load fanGeneration

theorem knows_of_get?_teamCodecs {name : TypeName} {codec found : Codec} (hcodec : codec.Knows)
    (h : (teamCodecs codec).get? name = some found) : found.Knows := by
  rw [teamCodecs, Table.get?_insert] at h
  split at h
  · exact Option.some.inj h ▸ hcodec
  · rw [eq_shift_of_get?_ageCodecs h]
    exact Codec.knows_shift 100

theorem noneMissing_of_eq_nil {reports : List PassReport}
    (h : reports.flatMap (·.diagnostics) = []) : ∀ report ∈ reports, report.NoneMissing := by
  intro report hreport name owner field type hmem
  have hany := List.mem_flatMap.mpr ⟨report, hreport, hmem⟩
  rw [h] at hany
  cases hany

/-- Ages keep their codec when teams have one. -/
theorem exists_codec_of_overrides {requests : List PassRequest}
    (h : (requests.flatMap (·.entries)).flatMap (·.overrideNames) = [⟨"AgeSerializer"⟩])
    (codec : Codec) : ∀ request ∈ requests, ∀ entry ∈ request.entries,
      ∀ name ∈ entry.overrideNames,
        ∃ found, (teamCodecs codec).get? name = some found ∧ found.Knows := by
  intro request hrequest entry hentry name hname
  have hmem := List.mem_flatMap.mpr
    ⟨entry, List.mem_flatMap.mpr ⟨request, hrequest, hentry⟩, hname⟩
  rw [h, List.mem_singleton] at hmem
  rw [hmem]
  exact ⟨.shift 100, rfl, Codec.knows_shift 100⟩

/-- Fans find the serializer of clubs, which is loaded after them, and clubs find that
of teams from the pass before, in whose place there is a codec. -/
theorem found_load_fans :
    let it := (fans (.shift 1)).load peopleGeneration
    it.runFor .encode ⟨"Fan"⟩ (fan (.ofInt 7)) = .ok (fan (.ofInt 8)) ∧
      (∀ value, (it.runFor .encode ⟨"Fan"⟩ value).Found) ∧
      ∀ value, (it.run .decode ⟨"TeamSerializer"⟩ value).Found := by
  intro it
  have hcodecs : (fans (.shift 1)).codecs = teamCodecs (.shift 1) := codecs_load _ _
  have hunits : ∀ unit ∈ peopleGeneration.units, ∀ codec,
      (fans (.shift 1)).codecs.get? unit.serializer.name = some codec → codec.Knows := by
    intro unit _ codec hcodec
    exact knows_of_get?_teamCodecs (Codec.knows_shift 1) (hcodecs ▸ hcodec)
  have hsupports : it.Supports fanGeneration := by
    have hreferences : fanGeneration.references.eraseDups =
        [.derived ⟨"ClubSerializer"⟩, .derived ⟨"FanSerializer"⟩] := rfl
    intro s hs
    rw [← List.mem_eraseDups, hreferences] at hs
    rcases List.mem_pair.mp hs with rfl | rfl
    · exact rfl
    · exact rfl
  obtain ⟨hrunFor, hrun⟩ := found_load .standard peopleRequests (fans (.shift 1))
    (noneMissing_of_eq_nil rfl) (hcodecs ▸ exists_codec_of_overrides rfl _) hunits
    ((backs_ofCodecs it _).load hsupports)
  have hteam : Serializer.derived ⟨"TeamSerializer"⟩ ∈ peopleGeneration.references := by decide
  exact ⟨rfl, hrunFor .encode ⟨"Fan"⟩, hrun _ hteam .decode⟩

/-- A codec that looks for a serializer that is nowhere. -/
def lostCodec : Codec :=
  ⟨fun _ => .error (.unknownSerializer ⟨"Lost"⟩), fun _ => .error (.unknownSerializer ⟨"Lost"⟩)⟩

/-- A pass for people, without clubs. -/
def teamRequests : List PassRequest := [⟨fanCatalog, 1, [peopleEntry]⟩]

/-- What the pass made. -/
def teamGeneration : Generation :=
  Generation.ofReports ((Generator.ofOptions .standard).runPasses teamRequests).1

/-- Codecs for the names in overrides are not enough. A codec in the place of a unit may
look for a serializer that is nowhere, and fans that were loaded before do not find that
of clubs. -/
theorem lost_load_fans :
    (∀ report ∈ ((Generator.ofOptions .standard).runPasses teamRequests).1, report.NoneMissing) ∧
      (∀ codec, (fans codec).codecs = teamCodecs codec) ∧
      (∀ codec, ∀ request ∈ teamRequests, ∀ entry ∈ request.entries,
        ∀ name ∈ entry.overrideNames,
          ∃ found, (teamCodecs codec).get? name = some found ∧ found.Knows) ∧
      ((ofCodecs (teamCodecs lostCodec)).load teamGeneration).runFor .encode ⟨"Person"⟩ person =
        .error (.unknownSerializer ⟨"Lost"⟩) ∧
      ((fans (.shift 1)).load teamGeneration).runFor .encode ⟨"Fan"⟩ (fan person) =
        .error (.unknownSerializer ⟨"ClubSerializer"⟩) :=
  ⟨noneMissing_of_eq_nil rfl, fun _ => codecs_load _ _, exists_codec_of_overrides rfl, rfl, rfl⟩

end Surrogates.Execution.Interpreter
