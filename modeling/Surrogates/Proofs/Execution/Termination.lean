/-
Surrogates.Proofs.Execution.Termination — every run ends.

To run a serializer is to answer a call, which makes further calls: a name
calls its unit, a unit the plans of its fields, a plan a name, the plan in it
or a container, and a container the plans of what is inside (`Calls`).
`respond` answers one call by the answers to those, and `respond_congr` says
that it asks for no others.

Units may refer to each other in circles, and a name, a plan that may be null
and a transparent container all pass the value on as it is. But between two
units that are entered one inside the other the value becomes less deep, and
there a plan only goes down into itself. So the `height` of a call bounds the
calls inside it (`height_lt_of_calls`), and to answer calls that lie deeper in
any other way changes nothing: `run_ends`.
-/
import Surrogates.Proofs.Execution.Levels

namespace Surrogates

/-! ## §1 The weight of plans -/

mutual

/-- How many calls inside each other a plan leads to before the value becomes
less deep, and itself. -/
def Plan.weight : Plan → Nat
  | .native => 1
  | .use _ => 3
  | .nullable inner => inner.weight + 1
  | .generic _ args => Plan.greatestWeight args + 2

/-- The greatest weight among plans, that of a native one at least. -/
def Plan.greatestWeight : List Plan → Nat
  | [] => 1
  | plan :: rest => max plan.weight (greatestWeight rest)

end

namespace Plan

theorem weight_le_greatestWeight {plans : List Plan} {plan : Plan} (h : plan ∈ plans) :
    plan.weight ≤ greatestWeight plans := by
  induction plans with
  | nil => cases h
  | cons first rest ih =>
    rw [greatestWeight]
    rcases List.mem_cons.mp h with rfl | h
    · omega
    · have hrest := ih h
      omega

theorem one_le_greatestWeight (plans : List Plan) : 1 ≤ greatestWeight plans := by
  induction plans with
  | nil => simp [greatestWeight]
  | cons first rest ih =>
    rw [greatestWeight]
    omega

/-- The plan in a place weighs no more than the heaviest, also if there is none
and it is native. -/
theorem weight_getD_le (plans : List Plan) (i : Nat) :
    (plans.getD i .native).weight ≤ greatestWeight plans := by
  rw [List.getD_eq_getElem?_getD]
  cases hget : plans[i]? with
  | none => simpa [weight] using one_le_greatestWeight plans
  | some plan => exact weight_le_greatestWeight (List.mem_of_getElem? hget)

theorem weight_headD_le (plans : List Plan) :
    (plans.headD .native).weight ≤ greatestWeight plans := by
  have hfirst := weight_getD_le plans 0
  cases plans <;> exact hfirst

theorem greatestWeight_mono {plans more : List Plan} (h : plans ⊆ more) :
    greatestWeight plans ≤ greatestWeight more := by
  induction plans with
  | nil => exact one_le_greatestWeight more
  | cons first rest ih =>
    obtain ⟨hfirst, hrest⟩ := List.cons_subset.mp h
    have hle := weight_le_greatestWeight hfirst
    have hles := ih hrest
    rw [greatestWeight]
    omega

end Plan

/-- The plans of the fields of a unit. -/
def SurrogateUnit.plans (unit : SurrogateUnit) : List Plan :=
  unit.surrogate.fields.map (·.plan)

namespace Execution

/-! ## §2 Calls -/

/-- What an interpreter is asked to do with a value. -/
inductive Call where
  /-- To run the serializer of a name. -/
  | named (name : TypeName) (value : Json)
  /-- To run the serializer of a unit. -/
  | unit (unit : SurrogateUnit) (value : Json)
  /-- To run a plan. -/
  | plan (plan : Plan) (value : Json)
  /-- To run a container with the plans of its arguments. -/
  | container (head : TypeName) (args : List Plan) (value : Json)

namespace Interpreter

open Json (depth_object_pos depth_lt_of_mem_array depth_lt_of_mem_object)

/-- The calls that a call may make. -/
inductive Calls (it : Interpreter) : Call → Call → Prop where
  | unit {name : TypeName} {unit : SurrogateUnit} (value : Json)
      (hcodec : it.codecs.get? name = none) (hunit : it.units.get? name = some unit) :
      Calls it (.named name value) (.unit unit value)
  | field {unit : SurrogateUnit} {field : SurrogateField} {members : List (String × Json)}
      {value : Json} (hfield : field ∈ unit.surrogate.fields)
      (hvalue : (field.name, value) ∈ members ∨ value = .null) :
      Calls it (.unit unit (.object members)) (.plan field.plan value)
  | use (serializer : Serializer) (value : Json) :
      Calls it (.plan (.use serializer) value) (.named serializer.name value)
  | nullable (inner : Plan) {value : Json} (hvalue : value.isNull = false) :
      Calls it (.plan (.nullable inner) value) (.plan inner value)
  | generic (head : TypeName) (args : List Plan) (value : Json) :
      Calls it (.plan (.generic head args) value) (.container head args value)
  | transparent {head : TypeName} (args : List Plan) (value : Json)
      (hhead : head.container? = some .transparent) :
      Calls it (.container head args value) (.plan (args.headD .native) value)
  | item {head : TypeName} {items : List Json} {item : Json} (args : List Plan)
      (hhead : head.container? = some .sequence ∨ head.container? = some .array)
      (hitem : item ∈ items) :
      Calls it (.container head args (.array items)) (.plan (args.headD .native) item)
  | component {head : TypeName} {items : List Json} {i : Nat} {item : Json} (args : List Plan)
      (hhead : head.container? = some .tuple) (hitem : items[i]? = some item) :
      Calls it (.container head args (.array items)) (.plan (args.getD i .native) item)
  | key {head : TypeName} {members : List (String × Json)} {member : String × Json}
      (args : List Plan) (hhead : head.container? = some .map) (hmember : member ∈ members) :
      Calls it (.container head args (.object members))
        (.plan (args.headD .native) (.string member.1))
  | entry {head : TypeName} {members : List (String × Json)} {member : String × Json}
      (args : List Plan) (hhead : head.container? = some .map) (hmember : member ∈ members) :
      Calls it (.container head args (.object members))
        (.plan (args.tail.headD .native) member.2)

/-- Answers one call by the answers to the calls that it makes. -/
def respond (it : Interpreter) (direction : Direction) (answer : Call → Result Json) :
    Call → Result Json
  | .named name value =>
    match it.codecs.get? name with
    | some codec => codec.run direction value
    | none =>
      match it.units.get? name with
      | some unit => answer (.unit unit value)
      | none => .error (.unknownSerializer name)
  | .unit unit value => runUnit (fun plan inside => answer (.plan plan inside)) direction unit value
  | .plan .native value => .ok value
  | .plan (.use serializer) value => answer (.named serializer.name value)
  | .plan (.nullable inner) value => if value.isNull then .ok .null else answer (.plan inner value)
  | .plan (.generic head args) value => answer (.container head args value)
  | .container head args value =>
    match head.container? with
    | none => .ok value
    | some .transparent => answer (.plan (args.headD .native) value)
    | some kind => runContainer (fun plan inside => answer (.plan plan inside)) head kind args value

/-- Answers a call with at most so many calls inside each other, and the calls
that lie deeper in a way of their own. -/
def respondWithin (it : Interpreter) (direction : Direction) (deeper : Call → Result Json) :
    Nat → Call → Result Json
  | 0 => deeper
  | n + 1 => it.respond direction (it.respondWithin direction deeper n)

variable {it : Interpreter} {direction : Direction} {f g : Call → Result Json}

/-- The answer to a call depends on nothing but the answers to those it makes. -/
theorem respond_congr {call : Call} (h : ∀ callee, it.Calls call callee → f callee = g callee) :
    it.respond direction f call = it.respond direction g call := by
  match call with
  | .named name value =>
    simp only [respond]
    split
    · rfl
    · next hcodec =>
      split
      · next hunit => exact h _ (.unit value hcodec hunit)
      · rfl
  | .unit unit value =>
    cases value with
    | object members => exact runUnit_congr fun field hfield value hvalue => h _ (.field hfield hvalue)
    | _ => rfl
  | .plan .native value => rfl
  | .plan (.use serializer) value => exact h _ (.use serializer value)
  | .plan (.nullable inner) value =>
    simp only [respond]
    split
    · rfl
    · next hvalue => exact h _ (.nullable inner (by simpa using hvalue))
  | .plan (.generic head args) value => exact h _ (.generic head args value)
  | .container head args value =>
    simp only [respond]
    split
    · rfl
    · next hhead => exact h _ (.transparent args value hhead)
    · next kind hother hhead =>
      unfold runContainer
      dsimp only
      split
      · refine congrArg (Except.map Json.object) (runEntries_congr ?_ ?_ head [])
        · exact fun member hmember => h _ (.key args hhead hmember)
        · exact fun member hmember => h _ (.entry args hhead hmember)
      · rfl
      · refine congrArg (Except.map Json.array) (runTuple_congr fun i item hitem => ?_)
        exact h _ (.component args hhead hitem)
      · rfl
      · next items hmap htuple =>
        have hkind : head.container? = some .sequence ∨ head.container? = some .array := by
          cases kind with
          | sequence => exact .inl hhead
          | array => exact .inr hhead
          | transparent => exact absurd rfl hother
          | map => exact absurd rfl hmap
          | tuple => exact absurd rfl htuple
        refine congrArg (Except.map Json.array) (mapM_congr fun item hitem => ?_)
        exact h _ (.item args hkind hitem)
      · rfl

/-! ## §3 The height of calls -/

/-- The greatest weight of a plan in a unit of the interpreter. -/
def span (it : Interpreter) : Nat :=
  Plan.greatestWeight (it.units.values.flatMap (·.plans))

/-- A bound on the calls inside each other that a call leads to. Each level of
the value allows for the heaviest plan of a unit. -/
def height (it : Interpreter) : Call → Nat
  | .named _ value => value.depth * it.span + 2
  | .unit unit value => value.depth * max it.span (Plan.greatestWeight unit.plans) + 1
  | .plan plan value => value.depth * it.span + plan.weight
  | .container _ args value => value.depth * it.span + Plan.greatestWeight args + 1

theorem greatestWeight_le_span {name : TypeName} {unit : SurrogateUnit}
    (h : it.units.get? name = some unit) : Plan.greatestWeight unit.plans ≤ it.span := by
  refine Plan.greatestWeight_mono fun plan hplan => List.mem_flatMap.mpr ⟨unit, ?_, hplan⟩
  exact List.mem_map.mpr ⟨(name, unit), Assoc.mem_of_get?_eq_some h, rfl⟩

/-- Inside a unit the value is less deep, which makes up for a heavier plan. -/
theorem depth_mul_add_lt {inside whole weight span bound : Nat} (hdepth : inside < whole)
    (hweight : weight ≤ bound) (hspan : span ≤ bound) :
    inside * span + weight < whole * bound + 1 := by
  have hinside : inside * span ≤ inside * bound := Nat.mul_le_mul_left inside hspan
  have hwhole : (inside + 1) * bound ≤ whole * bound := Nat.mul_le_mul_right bound hdepth
  rw [Nat.succ_mul] at hwhole
  omega

/-- What is inside a container is not deeper than it, and its plan weighs less. -/
theorem depth_mul_add_lt_of_le {inside whole weight bound : Nat} (span : Nat)
    (hdepth : inside ≤ whole) (hweight : weight ≤ bound) :
    inside * span + weight < whole * span + bound + 1 := by
  have hinside : inside * span ≤ whole * span := Nat.mul_le_mul_right span hdepth
  omega

/-- A call is higher than the calls it makes. -/
theorem height_lt_of_calls {caller callee : Call} (h : it.Calls caller callee) :
    it.height callee < it.height caller := by
  cases h with
  | unit value hcodec hunit =>
    simp [height, Nat.max_eq_left (greatestWeight_le_span hunit)]
  | @field unit field members value hfield hvalue =>
    have hdepth : value.depth < (Json.object members).depth := by
      rcases hvalue with hmem | rfl
      · exact depth_lt_of_mem_object hmem
      · exact depth_object_pos members
    have hweight : field.plan.weight ≤ Plan.greatestWeight unit.plans :=
      Plan.weight_le_greatestWeight (List.mem_map.mpr ⟨field, hfield, rfl⟩)
    exact depth_mul_add_lt hdepth (Nat.le_trans hweight (Nat.le_max_right ..))
      (Nat.le_max_left ..)
  | use serializer value => simp [height, Plan.weight]
  | nullable inner hvalue => simp [height, Plan.weight]
  | generic head args value =>
    simp only [height, Plan.weight]
    omega
  | transparent args value hhead =>
    exact depth_mul_add_lt_of_le _ (Nat.le_refl _) (Plan.weight_headD_le args)
  | item args hhead hitem =>
    exact depth_mul_add_lt_of_le _ (Nat.le_of_lt (depth_lt_of_mem_array hitem))
      (Plan.weight_headD_le args)
  | component args hhead hitem =>
    exact depth_mul_add_lt_of_le _
      (Nat.le_of_lt (depth_lt_of_mem_array (List.mem_of_getElem? hitem)))
      (Plan.weight_getD_le args _)
  | key args hhead hmember =>
    exact depth_mul_add_lt_of_le _ (Nat.zero_le _) (Plan.weight_headD_le args)
  | entry args hhead hmember =>
    refine depth_mul_add_lt_of_le _ (Nat.le_of_lt (depth_lt_of_mem_object hmember)) ?_
    exact Nat.le_trans (Plan.weight_headD_le _) (Plan.greatestWeight_mono fun _ => List.mem_of_mem_tail)

/-- However units refer to each other, no calls go on inside each other forever. -/
theorem wellFounded_calls (it : Interpreter) :
    WellFounded fun callee caller => it.Calls caller callee :=
  Subrelation.wf (fun h => height_lt_of_calls h) (measure it.height).wf

/-! ## §4 Answers -/

/-- The answer to a call as the levels of values give it. -/
def answer (it : Interpreter) (direction : Direction) : Call → Result Json
  | .named name value => it.run direction name value
  | .unit unit value => runUnit (it.execute direction) direction unit value
  | .plan plan value => it.execute direction plan value
  | .container head args value => it.execute direction (.generic head args) value

/-- The answers to all calls answer each call. -/
theorem respond_answer (it : Interpreter) (direction : Direction) (call : Call) :
    it.respond direction (it.answer direction) call = it.answer direction call := by
  match call with
  | .named name value =>
    simp only [answer, run_eq]
    rfl
  | .unit unit value => rfl
  | .plan plan value =>
    cases plan with
    | native => exact (execute_native value).symm
    | use serializer => exact (execute_use serializer value).symm
    | nullable inner => exact (execute_nullable inner value).symm
    | generic head args => rfl
  | .container head args value => exact (execute_generic head args value).symm

/-- A call is answered within its height, whatever calls that lie deeper are
answered. -/
theorem respondWithin_eq (deeper : Call → Result Json) {n : Nat} {call : Call}
    (h : it.height call < n) :
    it.respondWithin direction deeper n call = it.answer direction call := by
  induction n generalizing call with
  | zero => omega
  | succ n ih =>
    rw [respondWithin, ← respond_answer]
    refine respond_congr fun callee hcallee => ih ?_
    have hlt := height_lt_of_calls hcallee
    omega

/-- **Every run ends.** Calls inside each other are well-founded, whatever the
units refer to and whatever plans they have. A run of a serializer, by its name
or for a type, is the answer to one call; it is found within a number of calls
inside each other that the value and the heaviest plan determine, whatever
would be answered further inside. -/
theorem run_ends (it : Interpreter) (direction : Direction) :
    (WellFounded fun callee caller => it.Calls caller callee) ∧
      (∀ call f g, (∀ callee, it.Calls call callee → f callee = g callee) →
        it.respond direction f call = it.respond direction g call) ∧
      ∀ value n deeper, value.depth * it.span + 2 < n →
        (∀ name, it.run direction name value =
          it.respondWithin direction deeper n (.named name value)) ∧
        ∀ type, it.runFor direction type value =
          match it.serializerFor? type with
          | some name => it.respondWithin direction deeper n (.named name value)
          | none => .error (.notRegistered type) := by
  refine ⟨wellFounded_calls it, fun call f g => respond_congr, ?_⟩
  intro value n deeper hn
  have hnamed : ∀ name, it.respondWithin direction deeper n (.named name value) =
      it.run direction name value := fun name => respondWithin_eq deeper hn
  refine ⟨fun name => (hnamed name).symm, fun type => ?_⟩
  rw [runFor]
  cases it.serializerFor? type with
  | some name => exact (hnamed name).symm
  | none => rfl

/-! ## §5 Trees and nodes that contain each other -/

/-- A unit with one field, under the names that are derived for its target. -/
def unitOfField (target : String) (field : SurrogateField) : SurrogateUnit where
  target := ⟨target⟩
  surrogate := { name := ⟨target ++ "Surrogate"⟩, fields := [field], fileScope := [] }
  serializer :=
    { name := ⟨target ++ "Serializer"⟩
      toSurrogate := ⟨⟨target⟩, ⟨target ++ "Surrogate"⟩, [field.name]⟩
      fromSurrogate := ⟨⟨target ++ "Surrogate"⟩, ⟨target⟩, [field.name]⟩
      omitted := []
      imports := [] }

/-- A tree may have a node as its root, and a node has a list of trees. -/
def forest : Interpreter :=
  (empty.addUnit (unitOfField "Tree"
      ⟨"root", .node ⟨"Node"⟩ [] true, some (.derived ⟨"NodeSerializer"⟩),
        .nullable (.use (.derived ⟨"NodeSerializer"⟩))⟩)).addUnit
    (unitOfField "Node"
      ⟨"children", .node ⟨"Vec"⟩ [.node ⟨"Box"⟩ [.node ⟨"Tree"⟩ [] false] false] false, none,
        .generic ⟨"Vec"⟩ [.generic ⟨"Box"⟩ [.use (.derived ⟨"TreeSerializer"⟩)]]⟩)

/-- A tree whose root has the children given. -/
def treeOf (children : List Json) : Json :=
  .object [("root", .object [("children", .array children)])]

/-- Trees are run to the leaves, where a root is read as absent, with no more
than 45 calls inside each other. -/
theorem run_ends_forest :
    (treeOf [.object [], treeOf []]).depth * forest.span + 2 < 45 ∧
      ∀ deeper, forest.respondWithin .encode deeper 45
          (.named ⟨"TreeSerializer"⟩ (treeOf [.object [], treeOf []])) =
        .ok (treeOf [.object [("root", .null)], treeOf []]) := by
  have hn : (treeOf [.object [], treeOf []]).depth * forest.span + 2 < 45 := by decide
  refine ⟨hn, fun deeper => ?_⟩
  obtain ⟨-, -, hends⟩ := run_ends forest .encode
  rw [← (hends _ 45 deeper hn).1 ⟨"TreeSerializer"⟩]
  rfl

end Interpreter

end Execution

end Surrogates
