/-
Surrogates.Proofs.Execution.Unmirrored — what is not mirrored does not reach
the wire.

Two values are alike for a plan if they differ in nothing but keys that are
no fields of the surrogate, and in the order of keys, in objects that the
plan has a unit's serializer run on, however deep (`Alike`). Each loop of the
interpreter gives the same result for values that are alike inside, and so
does a plan: `execute_alike`. A serializer run on two values that are alike
for it gives the same value or the same failure: `run_alike`.
-/
import Surrogates.Proofs.Execution.Levels
import Surrogates.Proofs.Execution.Loading

namespace Surrogates.Execution

variable {α β : Type}

namespace Interpreter

open Generator (personSerializer)

/-! ## §1 Values that a plan does not tell apart -/

/-- Two values differ in nothing but keys without a field, and the order of
keys, in objects that a plan has a unit's serializer run on. -/
inductive Alike (it : Interpreter) : Plan → Json → Json → Prop where
  | same (plan : Plan) (value : Json) : Alike it plan value value
  /-- Objects for a unit have the same fields, and alike values in them. Of
  two fields of one name the first takes the value. -/
  | object {serializer : Serializer} {unit : SurrogateUnit} {left right : List (String × Json)}
      (hcodec : it.codecs.get? serializer.name = none)
      (hunit : it.units.get? serializer.name = some unit)
      (hkeys : ∀ field ∈ unit.surrogate.fields,
        (Assoc.get? field.name left).isSome = (Assoc.get? field.name right).isSome)
      (hvalues : ∀ field ∈ unit.surrogate.fields, ∀ a b,
        unit.surrogate.fields.find? (·.name == field.name) = some field →
        Assoc.get? field.name left = some a → Assoc.get? field.name right = some b →
        Alike it field.plan a b) :
      Alike it (.use serializer) (.object left) (.object right)
  | nullable {plan : Plan} {left right : Json} (hinner : Alike it plan left right) :
      Alike it (.nullable plan) left right
  | transparent {head : TypeName} {plan : Plan} {rest : List Plan} {left right : Json}
      (hhead : head.container? = some .transparent) (hinner : Alike it plan left right) :
      Alike it (.generic head (plan :: rest)) left right
  | sequence {head : TypeName} {args : List Plan} {left right : List Json}
      (hhead : head.container? = some .sequence ∨ head.container? = some .array)
      (hlength : left.length = right.length)
      (hitems : ∀ (i : Nat) (a b : Json), left[i]? = some a → right[i]? = some b →
        Alike it (args.headD .native) a b) :
      Alike it (.generic head args) (.array left) (.array right)
  | tuple {head : TypeName} {args : List Plan} {left right : List Json}
      (hhead : head.container? = some .tuple) (hlength : left.length = right.length)
      (hitems : ∀ (i : Nat) (a b : Json), left[i]? = some a → right[i]? = some b →
        Alike it (args.getD i .native) a b) :
      Alike it (.generic head args) (.array left) (.array right)
  /-- Maps have the same keys in the same order. -/
  | map {head : TypeName} {args : List Plan} {left right : List (String × Json)}
      (hhead : head.container? = some .map) (hkeys : Assoc.keys left = Assoc.keys right)
      (hvalues : ∀ (i : Nat) (a b : String × Json), left[i]? = some a → right[i]? = some b →
        Alike it (args.tail.headD .native) a.2 b.2) :
      Alike it (.generic head args) (.object left) (.object right)

variable {it : Interpreter} {inner : Plan → Json → Result Json}

/-- Values that are alike are both `null` or neither. -/
theorem Alike.isNull_eq {plan : Plan} {left right : Json} (h : it.Alike plan left right) :
    left.isNull = right.isNull := by
  induction h with
  | same => rfl
  | object => rfl
  | nullable _ ih => exact ih
  | transparent _ _ ih => exact ih
  | sequence => rfl
  | tuple => rfl
  | map => rfl

/-! ## §2 Loops -/

theorem runField_alike {type : TypeName} {field : SurrogateField}
    {left right : List (String × Json)}
    (hkey : (Assoc.get? field.name left).isSome = (Assoc.get? field.name right).isSome)
    (hvalue : ∀ a b, Assoc.get? field.name left = some a → Assoc.get? field.name right = some b →
      inner field.plan a = inner field.plan b) :
    runField inner type left field = runField inner type right field := by
  unfold runField fieldValue
  cases hleft : Assoc.get? field.name left with
  | none =>
    rw [hleft, Option.isSome_none, eq_comm, Option.isSome_eq_false_iff,
      Option.isNone_iff_eq_none] at hkey
    rw [hkey]
  | some a =>
    rw [hleft, Option.isSome_some, eq_comm, Option.isSome_iff_exists] at hkey
    obtain ⟨b, hright⟩ := hkey
    rw [hright]
    exact hvalue a b hleft hright

/-- The fields of a surrogate read nothing of an object but the values of
their names. -/
theorem runFields_alike {type : TypeName} {fields : List SurrogateField}
    {left right : List (String × Json)} (hleft : (Assoc.keys left).Nodup)
    (hright : (Assoc.keys right).Nodup)
    (hkeys : ∀ field ∈ fields,
      (Assoc.get? field.name left).isSome = (Assoc.get? field.name right).isSome)
    (hvalues : ∀ field ∈ fields, ∀ a b, fields.find? (·.name == field.name) = some field →
      Assoc.get? field.name left = some a → Assoc.get? field.name right = some b →
      inner field.plan a = inner field.plan b) (out : List (String × Json)) :
    runFields inner type fields left out = runFields inner type fields right out := by
  induction fields generalizing left right out with
  | nil => rfl
  | cons field rest ih =>
    have hfield : runField inner type left field = runField inner type right field := by
      refine runField_alike (hkeys field List.mem_cons_self) fun a b => ?_
      exact hvalues field List.mem_cons_self a b (by simp)
    rw [runFields_cons, runFields_cons, hfield]
    refine congrArg _ (funext fun value => ?_)
    -- a later field of the same name finds its key erased in both objects
    refine ih (Assoc.nodup_keys_erase field.name hleft) (Assoc.nodup_keys_erase field.name hright)
      (fun other hother => ?_) (fun other hother a b hfirst ha hb => ?_) _
    · by_cases hname : other.name = field.name
      · rw [hname, Assoc.get?_erase_self hleft, Assoc.get?_erase_self hright]
      · rw [Assoc.get?_erase_of_ne left hname, Assoc.get?_erase_of_ne right hname]
        exact hkeys other (List.mem_cons_of_mem _ hother)
    · have hname : other.name ≠ field.name := by
        intro heq
        rw [heq, Assoc.get?_erase_self hleft] at ha
        cases ha
      rw [Assoc.get?_erase_of_ne left hname] at ha
      rw [Assoc.get?_erase_of_ne right hname] at hb
      refine hvalues other (List.mem_cons_of_mem _ hother) a b ?_ ha hb
      rw [List.find?_cons_of_neg (by simpa using Ne.symm hname)]
      exact hfirst

/-- Lists of the same length are run alike if they are item by item. -/
theorem mapM_alike {f : α → Result β} {left right : List α} (hlength : left.length = right.length)
    (h : ∀ (i : Nat) (a b : α), left[i]? = some a → right[i]? = some b → f a = f b) :
    left.mapM f = right.mapM f := by
  induction left generalizing right with
  | nil =>
    rw [List.length_nil, eq_comm, List.length_eq_zero_iff] at hlength
    rw [hlength]
  | cons a rest ih =>
    cases right with
    | nil => cases hlength
    | cons b others =>
      rw [List.mapM_cons, List.mapM_cons, h 0 a b rfl rfl,
        ih (Nat.succ.inj hlength) fun i c d hc hd => h (i + 1) c d hc hd]

theorem runTuple_alike {plans : List Plan} {left right : List Json}
    (hlength : left.length = right.length)
    (h : ∀ (i : Nat) (a b : Json), left[i]? = some a → right[i]? = some b →
      inner (plans.getD i .native) a = inner (plans.getD i .native) b) :
    runTuple inner plans left = runTuple inner plans right := by
  induction left generalizing plans right with
  | nil =>
    rw [List.length_nil, eq_comm, List.length_eq_zero_iff] at hlength
    rw [hlength]
  | cons a rest ih =>
    cases right with
    | nil => cases hlength
    | cons b others =>
      have hfirst : inner (plans.headD .native) a = inner (plans.headD .native) b := by
        have hitem := h 0 a b rfl rfl
        cases plans <;> exact hitem
      have hrest : runTuple inner plans.tail rest = runTuple inner plans.tail others := by
        refine ih (Nat.succ.inj hlength) fun i c d hc hd => ?_
        have hitem := h (i + 1) c d hc hd
        cases plans <;> exact hitem
      rw [runTuple, runTuple, hfirst, hrest]

theorem runEntries_alike {head : TypeName} {key item : Plan} {left right : List (String × Json)}
    (hkeys : Assoc.keys left = Assoc.keys right)
    (h : ∀ (i : Nat) (a b : String × Json), left[i]? = some a → right[i]? = some b →
      inner item a.2 = inner item b.2) (out : List (String × Json)) :
    runEntries inner head key item left out = runEntries inner head key item right out := by
  have hlength : left.length = right.length := by
    simpa [Assoc.keys] using congrArg List.length hkeys
  have hentries : left.mapM (runEntry inner head key item) =
      right.mapM (runEntry inner head key item) := by
    refine mapM_alike hlength fun i a b ha hb => ?_
    have hkey : a.1 = b.1 := by
      have hget := congrArg (·[i]?) hkeys
      simpa [Assoc.keys, ha, hb] using hget
    rw [runEntry, runEntry, hkey, h i a b ha hb]
  rw [runEntries_eq, runEntries_eq, hentries]

/-! ## §3 Plans -/

/-- A plan gives the same result for values that are alike for it. -/
theorem execute_alike (direction : Direction) {plan : Plan} {left right : Json}
    (h : it.Alike plan left right) (hleft : left.WellFormed) (hright : right.WellFormed) :
    it.execute direction plan left = it.execute direction plan right := by
  induction h with
  | same plan value => rfl
  | @object serializer unit left right hcodec hunit hkeys hvalues ih =>
    obtain ⟨hleftKeys, hleftMembers⟩ := hleft.of_object
    obtain ⟨hrightKeys, hrightMembers⟩ := hright.of_object
    rw [execute_eq, execute_eq, runPlan, runPlan, runNamed, runNamed, hcodec, hunit]
    dsimp only
    rw [runUnit, runUnit, runFields_alike hleftKeys hrightKeys hkeys]
    intro field hfield a b hfirst ha hb
    exact ih field hfield a b hfirst ha hb
      (hleftMembers _ (Assoc.mem_of_get?_eq_some ha))
      (hrightMembers _ (Assoc.mem_of_get?_eq_some hb))
  | nullable hinner ih =>
    rw [execute_nullable, execute_nullable, hinner.isNull_eq, ih hleft hright]
  | transparent hhead _ ih =>
    rw [execute_generic, execute_generic, hhead]
    exact ih hleft hright
  | @sequence head args left right hhead hlength _ ih =>
    have hitems : left.mapM (it.execute direction (args.headD .native)) =
        right.mapM (it.execute direction (args.headD .native)) :=
      mapM_alike hlength fun i a b ha hb => ih i a b ha hb
        (hleft.of_array a (List.mem_of_getElem? ha)) (hright.of_array b (List.mem_of_getElem? hb))
    rw [execute_generic, execute_generic]
    rcases hhead with hhead | hhead
    · rw [hhead]
      exact congrArg (Except.map Json.array) hitems
    · rw [hhead]
      exact congrArg (Except.map Json.array) hitems
  | @tuple head args left right hhead hlength _ ih =>
    have hitems : runTuple (it.execute direction) args left =
        runTuple (it.execute direction) args right :=
      runTuple_alike hlength fun i a b ha hb => ih i a b ha hb
        (hleft.of_array a (List.mem_of_getElem? ha)) (hright.of_array b (List.mem_of_getElem? hb))
    rw [execute_generic, execute_generic, hhead]
    exact congrArg (Except.map Json.array) hitems
  | @map head args left right hhead hkeys _ ih =>
    have hentries : runEntries (it.execute direction) head (args.headD .native)
          (args.tail.headD .native) left [] =
        runEntries (it.execute direction) head (args.headD .native)
          (args.tail.headD .native) right [] :=
      runEntries_alike hkeys (fun i a b ha hb => ih i a b ha hb
        (hleft.of_object.2 a (List.mem_of_getElem? ha))
        (hright.of_object.2 b (List.mem_of_getElem? hb))) []
    rw [execute_generic, execute_generic, hhead]
    exact congrArg (Except.map Json.object) hentries

/-- **Unmirrored fields do not reach the wire.** In either direction, a
serializer gives the same value or the same failure for two values that differ
in nothing but unmirrored keys, and the order of keys, in objects that are run
by units' serializers. So does each type that the serializer is registered for. -/
theorem run_alike (it : Interpreter) (direction : Direction) {serializer : Serializer}
    {left right : Json} (hleft : left.WellFormed) (hright : right.WellFormed)
    (h : it.Alike (.use serializer) left right) :
    it.run direction serializer.name left = it.run direction serializer.name right ∧
      ∀ type, it.serializerFor? type = some serializer.name →
        it.runFor direction type left = it.runFor direction type right := by
  have hexecute := execute_alike direction h hleft hright
  have hrun : it.run direction serializer.name left = it.run direction serializer.name right := by
    rw [execute_eq, execute_eq, runPlan, runPlan, ← run_eq, ← run_eq] at hexecute
    exact hexecute
  refine ⟨hrun, fun type htype => ?_⟩
  rw [runFor, runFor, htype]
  exact hrun

/-! ## §4 What is noted about people -/

/-- The serializer derived for teams. -/
def teamSerializer : Serializer := .derived ⟨"TeamSerializer"⟩

/-- The surrogate fields of a person. -/
def personFields : List SurrogateField :=
  [⟨"age", .node ⟨"i32"⟩ [] false, some (.explicit ⟨"AgeSerializer"⟩),
      .use (.explicit ⟨"AgeSerializer"⟩)⟩,
   ⟨"team", .node ⟨"Team"⟩ [] true, some teamSerializer, .nullable (.use teamSerializer)⟩]

/-- The surrogate fields of a team. -/
def teamFields : List SurrogateField :=
  [⟨"lead", .node ⟨"Person"⟩ [] false, some personSerializer, .use personSerializer⟩,
   ⟨"members", .node ⟨"Vec"⟩ [.node ⟨"Person"⟩ [] false] false, none,
      .generic ⟨"Vec"⟩ [.use personSerializer]⟩]

theorem alike_persons {left right : List (String × Json)}
    (hage : Assoc.get? "age" left = Assoc.get? "age" right)
    (hteam : (Assoc.get? "team" left).isSome = (Assoc.get? "team" right).isSome)
    (hteams : ∀ a b, Assoc.get? "team" left = some a → Assoc.get? "team" right = some b →
      people.Alike (.use teamSerializer) a b) :
    people.Alike (.use personSerializer) (.object left) (.object right) := by
  obtain ⟨unit, hunit, hfields⟩ : ∃ unit, people.units.get? ⟨"PersonSerializer"⟩ = some unit ∧
      unit.surrogate.fields = personFields := ⟨_, rfl, rfl⟩
  refine .object rfl hunit ?_ ?_
  · intro field hfield
    simp only [hfields, personFields, List.mem_cons, List.not_mem_nil, or_false] at hfield
    rcases hfield with rfl | rfl
    · exact congrArg _ hage
    · exact hteam
  · intro field hfield a b _ ha hb
    simp only [hfields, personFields, List.mem_cons, List.not_mem_nil, or_false] at hfield
    rcases hfield with rfl | rfl
    · obtain rfl : a = b := Option.some.inj (ha.symm.trans (hage.trans hb))
      exact .same ..
    · exact .nullable (hteams a b ha hb)

theorem alike_teams {left right : List (String × Json)} {lead other : Json}
    {members others : List Json} (hlead : Assoc.get? "lead" left = some lead)
    (hother : Assoc.get? "lead" right = some other)
    (hmembers : Assoc.get? "members" left = some (.array members))
    (hothers : Assoc.get? "members" right = some (.array others))
    (hleads : people.Alike (.use personSerializer) lead other)
    (hlength : members.length = others.length)
    (hitems : ∀ (i : Nat) (a b : Json), members[i]? = some a → others[i]? = some b →
      people.Alike (.use personSerializer) a b) :
    people.Alike (.use teamSerializer) (.object left) (.object right) := by
  obtain ⟨unit, hunit, hfields⟩ : ∃ unit, people.units.get? ⟨"TeamSerializer"⟩ = some unit ∧
      unit.surrogate.fields = teamFields := ⟨_, rfl, rfl⟩
  refine .object rfl hunit ?_ ?_
  · intro field hfield
    simp only [hfields, teamFields, List.mem_cons, List.not_mem_nil, or_false] at hfield
    rcases hfield with rfl | rfl
    · rw [hlead, hother]; rfl
    · rw [hmembers, hothers]; rfl
  · intro field hfield a b _ ha hb
    simp only [hfields, teamFields, List.mem_cons, List.not_mem_nil, or_false] at hfield
    rcases hfield with rfl | rfl
    · obtain rfl := Option.some.inj (hlead.symm.trans ha)
      obtain rfl := Option.some.inj (hother.symm.trans hb)
      exact hleads
    · obtain rfl := Option.some.inj (hmembers.symm.trans ha)
      obtain rfl := Option.some.inj (hothers.symm.trans hb)
      exact .sequence (.inl rfl) hlength hitems

/-- A person in a team with a member, and what is noted about them. -/
def personNoted : Json :=
  .object
    [("age", .ofInt 41), ("phone", .string "555"),
     ("team", .object
        [("budget", .ofInt 9), ("lead", .object [("age", .ofInt 30)]),
         ("members", .array [.object [("salary", .ofInt 5), ("age", .ofInt 20)]])])]

/-- The same without the notes, and in another order. -/
def personBare : Json :=
  .object
    [("team", .object
        [("members", .array [.object [("age", .ofInt 20)]]),
         ("lead", .object [("age", .ofInt 30)])]),
     ("age", .ofInt 41)]

theorem alike_personNoted : people.Alike (.use personSerializer) personNoted personBare := by
  refine alike_persons rfl rfl fun a b ha hb => ?_
  cases ha
  cases hb
  refine alike_teams rfl rfl rfl rfl (.same ..) rfl fun i a b ha hb => ?_
  cases i with
  | zero =>
    cases ha
    cases hb
    refine alike_persons rfl rfl fun a b ha _ => ?_
    cases ha
  | succ i => cases ha

theorem wellFormed_people : personNoted.WellFormed ∧ personBare.WellFormed := by
  have hempty : (Json.object []).WellFormed := .object [] List.nodup_nil (by simp)
  have hage : ∀ years, (Json.object [("age", .ofInt years)]).WellFormed :=
    fun years => Json.wellFormed_put "age" hempty (.number _)
  have hmember : (Json.object [("salary", .ofInt 5), ("age", .ofInt 20)]).WellFormed :=
    Json.wellFormed_put "age" (Json.wellFormed_put "salary" hempty (.number _)) (.number _)
  have hnoted : (Json.object [("budget", .ofInt 9), ("lead", .object [("age", .ofInt 30)]),
      ("members", .array [.object [("salary", .ofInt 5), ("age", .ofInt 20)]])]).WellFormed :=
    Json.wellFormed_put "members"
      (Json.wellFormed_put "lead" (Json.wellFormed_put "budget" hempty (.number _)) (hage 30))
      (.array _ (by simpa using hmember))
  have hbare : (Json.object [("members", .array [.object [("age", .ofInt 20)]]),
      ("lead", .object [("age", .ofInt 30)])]).WellFormed :=
    Json.wellFormed_put "lead" (Json.wellFormed_put "members" hempty
      (.array _ (by simpa using hage 20))) (hage 30)
  constructor
  · exact Json.wellFormed_put "team" (Json.wellFormed_put "phone" (hage 41) (.string _)) hnoted
  · exact Json.wellFormed_put "age" (Json.wellFormed_put "team" hempty hbare) (.number _)

/-- What is noted about people does not reach the wire. -/
theorem run_alike_people :
    people.Alike (.use personSerializer) personNoted personBare ∧
      people.run .encode ⟨"PersonSerializer"⟩ personNoted =
        people.run .encode ⟨"PersonSerializer"⟩ personBare ∧
      people.runFor .decode ⟨"Person"⟩ personNoted = people.runFor .decode ⟨"Person"⟩ personBare ∧
      ∃ value, people.run .encode ⟨"PersonSerializer"⟩ personNoted = .ok value := by
  obtain ⟨hnoted, hbare⟩ := wellFormed_people
  have hencode := run_alike people .encode hnoted hbare alike_personNoted
  have hdecode := run_alike people .decode hnoted hbare alike_personNoted
  exact ⟨alike_personNoted, hencode.1, hdecode.2 ⟨"Person"⟩ rfl, _, rfl⟩

end Interpreter

end Surrogates.Execution
