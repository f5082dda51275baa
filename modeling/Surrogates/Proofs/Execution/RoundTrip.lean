/-
Surrogates.Proofs.Execution.RoundTrip — what is encoded is decoded to its
normal form.

Codecs that are inverted by their other half, and units whose surrogates have
distinct field names: then encoding is undone by decoding up to the normal
form, and the normal form is encoded as the value was. The invariant also
says that only `null` is encoded as `null`, since `nullable` plans pass by
`null`. It goes from the values inside to the value for units, containers
and plans (`undoes_unit`, `undoes_container`, `undoes_plan`), and so holds by
induction on depth (`undoes_execute`), whatever the units refer to.
-/
import Surrogates.Proofs.Execution.Levels
import Surrogates.Proofs.Execution.Loading
import Surrogates.Proofs.Execution.Normal
import Surrogates.Proofs.Unit.Synthesis

namespace Surrogates.Execution

open Json (depth_object_pos depth_lt_of_mem_array depth_lt_of_mem_object)

/-- What a codec encodes it decodes to the same value, and it encodes nothing
but `null` as `null`. -/
def Codec.Invertible (codec : Codec) : Prop :=
  ∀ value result, value.WellFormed → codec.encode value = .ok result →
    codec.decode result = .ok value ∧ (result.isNull = true → value.isNull = true)

/-- What is shifted is shifted back. -/
theorem Codec.invertible_shift (n : Int) : (shift n).Invertible := by
  intro value result _ hrun
  have hadd : addInt n value = .ok result := hrun
  show addInt (-n) result = .ok value ∧ _
  unfold addInt at hadd
  split at hadd
  · cases hadd
  · next m hm =>
    split at hadd
    · next hin =>
      cases hadd
      obtain ⟨rfl, hbounds⟩ := Json.eq_ofInt_of_asInt64? hm
      have hback : (Json.ofInt (m + n)).asInt64? = some (m + n) := if_pos hin
      refine ⟨?_, fun h => by cases h⟩
      unfold addInt
      rw [hback]
      dsimp only
      rw [Int.add_neg_cancel_right, if_pos hbounds]
    · cases hadd

/-- Decoding undoes encoding a value up to a normal form, which is encoded in
the same way; and only `null` is encoded as `null`. -/
def Undoes (encode decode : Json → Result Json) (normal : Json → Json) (value : Json) : Prop :=
  ∀ result, encode value = .ok result →
    decode result = .ok (normal value) ∧ encode (normal value) = .ok result ∧
      (result.isNull = true → value.isNull = true)

namespace Interpreter

variable {it : Interpreter} {encode decode : Plan → Json → Result Json}
  {normal : Plan → Json → Json}

/-! ## §1 Units -/

/-- A field that is present reads as it is. -/
theorem runField_of_get? {inner : Plan → Json → Result Json} {type : TypeName}
    {source : List (String × Json)} {field : SurrogateField} {value : Json}
    (h : Assoc.get? field.name source = some value) :
    runField inner type source field = inner field.plan value := by
  unfold runField fieldValue
  rw [h]
  rfl

/-- In an object made of fields of distinct names each finds its value. -/
theorem get?_map_fields {fields : List SurrogateField} (hnames : (fields.map (·.name)).Nodup)
    (values : SurrogateField → Json) {field : SurrogateField} (hfield : field ∈ fields) :
    Assoc.get? field.name (fields.map fun field => (field.name, values field)) =
      some (values field) := by
  refine Assoc.get?_eq_some_of_mem ?_ (List.mem_map.mpr ⟨field, hfield, rfl⟩)
  rw [Assoc.keys, List.map_map]
  exact hnames

theorem undoes_unit {unit : SurrogateUnit} (hnames : (unit.surrogate.fields.map (·.name)).Nodup)
    {value : Json} (hvalue : value.WellFormed)
    (hinside : ∀ plan inside, inside.WellFormed → inside.depth < value.depth →
      Undoes (encode plan) (decode plan) (normal plan) inside) :
    Undoes (runUnit encode .encode unit) (runUnit decode .decode unit)
      (normalizeUnit normal unit) value := by
  intro result hrun
  cases value with
  | object members =>
    obtain ⟨written, hwritten, rfl⟩ := Except.map_eq_ok.mp hrun
    obtain ⟨values, hvalues, rfl⟩ := exists_values_of_runFields hnames hwritten
    -- each field found its value in the object, or `null`
    have hfields : ∀ field ∈ unit.surrogate.fields,
        Undoes (encode field.plan) (decode field.plan) (normal field.plan)
          ((Assoc.get? field.name members).getD .null) ∧
        encode field.plan ((Assoc.get? field.name members).getD .null) = .ok (values field) := by
      intro field hfield
      obtain ⟨raw, hraw, hencode⟩ := Except.bind_eq_ok.mp (hvalues field hfield)
      obtain ⟨heq, hmem⟩ := fieldValue_cases hraw
      rw [← heq]
      refine ⟨?_, hencode⟩
      rcases hmem with hmem | rfl
      · exact hinside _ raw (hvalue.of_object.2 _ hmem) (depth_lt_of_mem_object hmem)
      · exact hinside _ .null .null (depth_object_pos members)
    have hdecoded : ∀ field ∈ unit.surrogate.fields,
        runField decode unit.surrogate.name
            (unit.surrogate.fields.map fun field => (field.name, values field)) field =
          .ok (normal field.plan ((Assoc.get? field.name members).getD .null)) := by
      intro field hfield
      obtain ⟨hundoes, hencode⟩ := hfields field hfield
      rw [runField_of_get? (get?_map_fields hnames values hfield)]
      exact (hundoes _ hencode).1
    have hencoded : ∀ field ∈ unit.surrogate.fields,
        runField encode unit.target (unit.surrogate.fields.map fun field =>
            (field.name, normal field.plan ((Assoc.get? field.name members).getD .null))) field =
          .ok (values field) := by
      intro field hfield
      obtain ⟨hundoes, hencode⟩ := hfields field hfield
      rw [runField_of_get? (get?_map_fields hnames _ hfield)]
      exact (hundoes _ hencode).2.1
    have hfresh : ∀ field ∈ unit.surrogate.fields,
        field.name ∉ Assoc.keys ([] : List (String × Json)) := by
      intro field _ hmem
      cases hmem
    refine ⟨?_, ?_, fun h => by cases h⟩
    · exact Except.map_eq_ok.mpr ⟨_, runFields_eq_ok hnames hfresh hdecoded, rfl⟩
    · exact Except.map_eq_ok.mpr ⟨_, runFields_eq_ok hnames hfresh hencoded, rfl⟩
  | _ => cases hrun

/-- The units and codecs of an interpreter can be undone. -/
structure Invertible (it : Interpreter) : Prop where
  codecs : ∀ name codec, it.codecs.get? name = some codec → codec.Invertible
  units : ∀ name unit, it.units.get? name = some unit →
    (unit.surrogate.fields.map (·.name)).Nodup

theorem undoes_named (hit : it.Invertible) (name : TypeName) {value : Json}
    (hvalue : value.WellFormed)
    (hinside : ∀ plan inside, inside.WellFormed → inside.depth < value.depth →
      Undoes (encode plan) (decode plan) (normal plan) inside) :
    Undoes (runNamed encode it .encode name) (runNamed decode it .decode name)
      (normalizeNamed normal it name) value := by
  intro result hrun
  unfold runNamed at hrun ⊢
  unfold normalizeNamed
  cases hcodec : it.codecs.get? name with
  | some codec =>
    rw [hcodec] at hrun
    obtain ⟨hdecode, hnull⟩ := hit.codecs name codec hcodec value result hvalue hrun
    exact ⟨hdecode, hrun, hnull⟩
  | none =>
    rw [hcodec] at hrun
    cases hunit : it.units.get? name with
    | some unit =>
      rw [hunit] at hrun
      exact undoes_unit (hit.units name unit hunit) hvalue hinside result hrun
    | none =>
      rw [hunit] at hrun
      cases hrun

/-! ## §2 Containers -/

theorem undoes_items {plan : Plan} {items results : List Json}
    (hinside : ∀ item ∈ items, Undoes (encode plan) (decode plan) (normal plan) item)
    (hrun : items.mapM (encode plan) = .ok results) :
    results.mapM (decode plan) = .ok (items.map (normal plan)) ∧
      (items.map (normal plan)).mapM (encode plan) = .ok results := by
  refine mapM_undone (fun item hitem result hresult => ?_) hrun
  obtain ⟨hdecode, hencode, -⟩ := hinside item hitem result hresult
  exact ⟨hdecode, hencode⟩

theorem undoes_tuple {items results : List Json}
    (hinside : ∀ plan, ∀ item ∈ items, Undoes (encode plan) (decode plan) (normal plan) item)
    {plans : List Plan} (hrun : runTuple encode plans items = .ok results) :
    runTuple decode plans results = .ok (normalizeTuple normal plans items) ∧
      runTuple encode plans (normalizeTuple normal plans items) = .ok results := by
  induction items generalizing plans results with
  | nil =>
    cases hrun
    exact ⟨rfl, rfl⟩
  | cons item rest ih =>
    rw [runTuple] at hrun
    obtain ⟨first, hfirst, hrest⟩ := Except.bind_eq_ok.mp hrun
    obtain ⟨others, hothers, heq⟩ := Except.bind_eq_ok.mp hrest
    cases heq
    obtain ⟨hdecode, hencode, -⟩ := hinside _ item List.mem_cons_self first hfirst
    obtain ⟨hdecodes, hencodes⟩ :=
      ih (fun plan other hother => hinside plan other (List.mem_cons_of_mem _ hother)) hothers
    rw [normalizeTuple, runTuple, runTuple, hdecode, hencode, hdecodes, hencodes]
    exact ⟨rfl, rfl⟩

/-- Members that get distinct keys had distinct keys. -/
theorem nodup_keys_of_mapM {inner : Plan → Json → Result Json} {head : TypeName}
    {key item : Plan} {members results : List (String × Json)}
    (hrun : members.mapM (runEntry inner head key item) = .ok results)
    (h : (Assoc.keys results).Nodup) : (Assoc.keys members).Nodup := by
  induction members generalizing results with
  | nil => exact List.nodup_nil
  | cons member rest ih =>
    rw [List.mapM_cons] at hrun
    obtain ⟨first, hfirst, hrest⟩ := Except.bind_eq_ok.mp hrun
    obtain ⟨others, hothers, heq⟩ := Except.bind_eq_ok.mp hrest
    cases heq
    obtain ⟨hfresh, hnodup⟩ := List.nodup_cons.mp h
    refine List.nodup_cons.mpr ⟨fun hmem => hfresh ?_, ih hothers hnodup⟩
    -- a member with the same key would have got the same new key
    obtain ⟨other, hother, hkey⟩ := List.mem_map.mp hmem
    obtain ⟨result, hresult, hrunOther⟩ := exists_of_mem_mapM hothers hother
    have hname := (runEntry_eq_ok.mp hfirst).1
    rw [← hkey, (runEntry_eq_ok.mp hrunOther).1] at hname
    exact List.mem_map.mpr ⟨result, hresult, Json.string.inj (Except.ok.inj hname)⟩

theorem undoes_entries {head : TypeName} {key item : Plan} {members results : List (String × Json)}
    (hkeys : (Assoc.keys members).Nodup)
    (hkey : ∀ name, Undoes (encode key) (decode key) (normal key) (.string name))
    (hstring : ∀ name, normal key (.string name) = .string name)
    (hitem : ∀ member ∈ members, Undoes (encode item) (decode item) (normal item) member.2)
    (hrun : runEntries encode head key item members [] = .ok results) :
    runEntries decode head key item results [] =
        .ok (members.map fun (name, value) => (name, normal item value)) ∧
      runEntries encode head key item
        (members.map fun (name, value) => (name, normal item value)) [] = .ok results := by
  have hentry : ∀ member ∈ members, ∀ result,
      runEntry encode head key item member = .ok result →
        runEntry decode head key item result = .ok (member.1, normal item member.2) ∧
          runEntry encode head key item (member.1, normal item member.2) = .ok result := by
    intro member hmember result hresult
    obtain ⟨hname, hvalue⟩ := runEntry_eq_ok.mp hresult
    obtain ⟨hdecodeName, -, -⟩ := hkey member.1 _ hname
    obtain ⟨hdecode, hencode, -⟩ := hitem member hmember _ hvalue
    rw [hstring] at hdecodeName
    exact ⟨runEntry_eq_ok.mpr ⟨hdecodeName, hdecode⟩, runEntry_eq_ok.mpr ⟨hname, hencode⟩⟩
  have hnormal : (Assoc.keys (members.map fun (name, value) => (name, normal item value))).Nodup := by
    rw [Assoc.keys, List.map_map]
    exact hkeys
  rw [runEntries_eq] at hrun
  obtain ⟨pairs, hpairs, hput⟩ := Except.map_eq_ok.mp hrun
  obtain ⟨hdecode, hencode⟩ := mapM_undone hentry hpairs
  have hdistinct : (Assoc.keys pairs).Nodup := nodup_keys_of_mapM hdecode hnormal
  have hnew : ∀ {table : List (String × Json)}, ∀ name ∈ Assoc.keys table,
      name ∉ Assoc.keys ([] : List (String × Json)) := by
    intro table name _ hmem
    cases hmem
  rw [Assoc.foldl_put_eq_append hdistinct hnew, List.nil_append] at hput
  subst hput
  rw [runEntries_eq, runEntries_eq]
  constructor
  · exact Except.map_eq_ok.mpr ⟨_, hdecode, Assoc.foldl_put_eq_append hnormal hnew⟩
  · exact Except.map_eq_ok.mpr ⟨_, hencode, Assoc.foldl_put_eq_append hdistinct hnew⟩

theorem undoes_container (head : TypeName) (kind : ContainerKind) (args : List Plan)
    {value : Json} (hvalue : value.WellFormed)
    (hinside : ∀ plan inside, inside.WellFormed → inside.depth < value.depth →
      Undoes (encode plan) (decode plan) (normal plan) inside)
    (hstring : ∀ plan name, normal plan (.string name) = .string name) :
    Undoes (runContainer encode head kind args) (runContainer decode head kind args)
      (normalizeContainer normal kind args) value := by
  intro result hrun
  cases kind with
  | map =>
    cases value with
    | object members =>
      obtain ⟨written, hwritten, rfl⟩ := Except.map_eq_ok.mp hrun
      obtain ⟨hkeys, hmembers⟩ := hvalue.of_object
      obtain ⟨hdecode, hencode⟩ := undoes_entries hkeys
        (fun name => hinside _ _ (.string name) (depth_object_pos members)) (hstring _)
        (fun member hmember => hinside _ _ (hmembers member hmember)
          (depth_lt_of_mem_object hmember)) hwritten
      exact ⟨Except.map_eq_ok.mpr ⟨_, hdecode, rfl⟩, Except.map_eq_ok.mpr ⟨_, hencode, rfl⟩,
        fun h => by cases h⟩
    | _ => cases hrun
  | tuple =>
    cases value with
    | array items =>
      obtain ⟨written, hwritten, rfl⟩ := Except.map_eq_ok.mp hrun
      obtain ⟨hdecode, hencode⟩ := undoes_tuple (fun plan item hitem =>
        hinside plan item (hvalue.of_array item hitem) (depth_lt_of_mem_array hitem)) hwritten
      exact ⟨Except.map_eq_ok.mpr ⟨_, hdecode, rfl⟩, Except.map_eq_ok.mpr ⟨_, hencode, rfl⟩,
        fun h => by cases h⟩
    | _ => cases hrun
  | _ =>
    cases value with
    | array items =>
      obtain ⟨written, hwritten, rfl⟩ := Except.map_eq_ok.mp hrun
      obtain ⟨hdecode, hencode⟩ := undoes_items (fun item hitem =>
        hinside _ item (hvalue.of_array item hitem) (depth_lt_of_mem_array hitem)) hwritten
      exact ⟨Except.map_eq_ok.mpr ⟨_, hdecode, rfl⟩, Except.map_eq_ok.mpr ⟨_, hencode, rfl⟩,
        fun h => by cases h⟩
    | _ => cases hrun

/-! ## §3 Plans -/

theorem undoes_plan (hit : it.Invertible) {value : Json} (hvalue : value.WellFormed)
    (hinside : ∀ plan inside, inside.WellFormed → inside.depth < value.depth →
      Undoes (encode plan) (decode plan) (normal plan) inside)
    (hstring : ∀ plan name, normal plan (.string name) = .string name) :
    ∀ plan : Plan, Undoes (it.runPlan .encode encode plan) (it.runPlan .decode decode plan)
      (normalizePlan normal it plan) value
  | .native => by
    intro result hrun
    rw [runPlan] at hrun
    cases hrun
    rw [normalizePlan, runPlan, runPlan]
    exact ⟨rfl, rfl, id⟩
  | .use serializer => by
    intro result hrun
    rw [runPlan] at hrun
    rw [normalizePlan, runPlan, runPlan]
    exact undoes_named hit serializer.name hvalue hinside result hrun
  | .nullable plan => by
    intro result hrun
    rw [runPlan] at hrun
    rw [normalizePlan, runPlan, runPlan]
    split at hrun
    · next hnull =>
      cases hrun
      rw [if_pos hnull]
      exact ⟨rfl, rfl, fun _ => hnull⟩
    · next hnull =>
      obtain ⟨hdecode, hencode, honly⟩ := undoes_plan hit hvalue hinside hstring plan result hrun
      -- what is not `null` is not encoded as `null`, nor is its normal form `null`
      have hresult : ¬ result.isNull = true := fun h => hnull (honly h)
      rw [if_neg hnull, isNull_normalizePlan, if_neg hnull, if_neg hresult]
      exact ⟨hdecode, hencode, honly⟩
  | .generic head args => by
    intro result hrun
    rw [runPlan.eq_def] at hrun
    rw [normalizePlan.eq_def, runPlan.eq_def, runPlan.eq_def]
    cases hkind : head.container? with
    | none =>
      simp only [hkind] at hrun ⊢
      cases hrun
      exact ⟨rfl, rfl, id⟩
    | some kind =>
      simp only [hkind] at hrun ⊢
      cases kind with
      | transparent =>
        cases args with
        | nil =>
          cases hrun
          exact ⟨rfl, rfl, id⟩
        | cons plan rest => exact undoes_plan hit hvalue hinside hstring plan result hrun
      | _ => exact undoes_container head _ args hvalue hinside hstring result hrun

/-- Whatever units refer to, the values inside are less deep. -/
theorem undoes_execute (hit : it.Invertible) (plan : Plan) {value : Json}
    (hvalue : value.WellFormed) :
    Undoes (it.execute .encode plan) (it.execute .decode plan) (it.normalForm plan) value := by
  induction hdepth : value.depth using Nat.strongRecOn generalizing plan value with
  | ind depth ih =>
    intro result hrun
    rw [execute_eq] at hrun
    rw [execute_eq, execute_eq, normalForm_eq]
    refine undoes_plan hit hvalue (fun inner inside hinside hless => ?_) normalForm_string
      plan result hrun
    exact ih inside.depth (hdepth ▸ hless) inner hinside rfl

/-! ## §4 Runs -/

/-- What an interpreter with invertible codecs and synthesized units encodes it
decodes to the normal form of the value, and encodes the same from there.
Values that are read from texts are well-formed. -/
theorem decode_encode (it : Interpreter)
    (hcodecs : ∀ name codec, it.codecs.get? name = some codec → codec.Invertible)
    (hunits : ∀ name unit, it.units.get? name = some unit → unit.Synthesized)
    (name : TypeName) {value result : Json} (hvalue : value.WellFormed)
    (hrun : it.run .encode name value = .ok result) :
    it.run .decode name result = .ok (it.normalize name value) ∧
      it.run .encode name (it.normalize name value) = .ok result := by
  have hit : it.Invertible := ⟨hcodecs, fun name unit hunit => (hunits name unit hunit).nodup⟩
  rw [run_eq] at hrun
  rw [run_eq, run_eq, normalize_eq]
  obtain ⟨hdecode, hencode, -⟩ := undoes_named hit name hvalue
    (fun plan inside hinside _ => undoes_execute hit plan hinside) result hrun
  exact ⟨hdecode, hencode⟩

/-! ## §5 People -/

/-- The person in normal form, older by some years. -/
def personOlder (years : Int) : Json :=
  .object
    [("age", .ofInt (41 + years)),
     ("team", .object
        [("lead", .object [("age", .ofInt (30 + years)), ("team", .null)]),
         ("members", .array [])])]

theorem synthesized_people {name : TypeName} {unit : SurrogateUnit}
    (h : people.units.get? name = some unit) : unit.Synthesized := by
  have hunit : unit ∈ peopleGeneration.units := (get?_units_load h).resolve_left nofun
  obtain ⟨report, hreport, hunit⟩ := Generation.mem_units_ofReports.mp hunit
  refine Generator.synthesized_of_mem_runPasses ?_ hreport hunit
  have hfields : ∀ request ∈ peopleRequests, ∀ pair ∈ request.catalog.types.entries,
      (pair.2.fields.map (·.name)).Nodup := by
    decide
  intro request hrequest name decl hdecl
  exact hfields request hrequest _ (Assoc.mem_of_get?_eq_some hdecl)

/-- Ages come back, what a person does not have is dropped, and a lead without
a team has `null` for it. -/
theorem decode_encode_people :
    people.run .decode ⟨"PersonSerializer"⟩ (personOlder 100) = .ok (personOlder 0) ∧
      people.run .encode ⟨"PersonSerializer"⟩ (personOlder 0) = .ok (personOlder 100) := by
  have hcodecs : ∀ name codec, people.codecs.get? name = some codec → codec.Invertible := by
    intro name codec h
    rw [people, codecs_load] at h
    rw [eq_shift_of_get?_ageCodecs h]
    exact Codec.invertible_shift 100
  have hrun : people.run .encode ⟨"PersonSerializer"⟩ person = .ok (personOlder 100) := rfl
  exact decode_encode people hcodecs (fun _ _ => synthesized_people) ⟨"PersonSerializer"⟩
    wellFormed_person hrun

end Interpreter

end Surrogates.Execution
