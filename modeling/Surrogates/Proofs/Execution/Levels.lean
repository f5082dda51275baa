/-
Surrogates.Proofs.Execution.Levels — running without levels.

What is run on a value runs plans on `null`, on the keys of a map and on the
values inside only, which are all less deep. So two levels above the depth of
a value agree on it (`atLevel_eq`), and `execute`, which takes the least of
them, runs plans by itself: `execute_eq`, `run_eq`. For each kind of plan an
equation tells what it does, `execute_generic` for containers.
-/
import Surrogates.Proofs.Execution.Loops
import Surrogates.Proofs.Json.WellFormed

namespace Surrogates.Execution.Interpreter

open Json (depth_object_pos depth_lt_of_mem_array depth_lt_of_mem_object)

variable {it : Interpreter} {direction : Direction} {f g : Plan → Json → Result Json}

/-! ## §1 Runs that agree on what is inside -/

theorem fieldValue_cases {type : TypeName} {field : SurrogateField}
    {source : List (String × Json)} {value : Json}
    (h : fieldValue type field source = .ok value) :
    value = (Assoc.get? field.name source).getD .null ∧
      ((field.name, value) ∈ source ∨ value = .null) := by
  unfold fieldValue at h
  split at h
  · next hget =>
    cases h
    rw [hget]
    exact ⟨rfl, .inl (Assoc.mem_of_get?_eq_some hget)⟩
  · next hget =>
    split at h
    · cases h
      rw [hget]
      exact ⟨rfl, .inr rfl⟩
    · cases h

theorem runFields_congr {fields : List SurrogateField} {source : List (String × Json)}
    (h : ∀ field ∈ fields, ∀ value, (field.name, value) ∈ source ∨ value = .null →
      f field.plan value = g field.plan value)
    (type : TypeName) (out : List (String × Json)) :
    runFields f type fields source out = runFields g type fields source out := by
  induction fields generalizing source out with
  | nil => rfl
  | cons field rest ih =>
    have hlater : ∀ out, runFields f type rest (Assoc.erase field.name source) out =
        runFields g type rest (Assoc.erase field.name source) out := by
      refine fun out => ih (fun other hother value hvalue => ?_) out
      exact h other (List.mem_cons_of_mem _ hother) value (hvalue.imp_left Assoc.mem_of_mem_erase)
    rw [runFields, runFields]
    cases hvalue : fieldValue type field source with
    | error failure => rfl
    | ok value =>
      show (f field.plan value >>= _) = (g field.plan value >>= _)
      rw [h field List.mem_cons_self value (fieldValue_cases hvalue).2]
      simp only [hlater]

theorem runUnit_congr {unit : SurrogateUnit} {members : List (String × Json)}
    (h : ∀ field ∈ unit.surrogate.fields, ∀ value, (field.name, value) ∈ members ∨ value = .null →
      f field.plan value = g field.plan value) :
    runUnit f direction unit (.object members) = runUnit g direction unit (.object members) := by
  rw [runUnit, runUnit, runFields_congr h]

theorem runNamed_congr {value : Json}
    (h : ∀ plan inside, inside.depth < value.depth → f plan inside = g plan inside)
    (name : TypeName) : runNamed f it direction name value = runNamed g it direction name value := by
  unfold runNamed
  split
  · rfl
  · split
    · next unit _ =>
      cases value with
      | object members =>
        refine runUnit_congr fun field _ value hvalue => h _ _ ?_
        rcases hvalue with hmem | rfl
        · exact depth_lt_of_mem_object hmem
        · exact depth_object_pos members
      | _ => rfl
    · rfl

theorem runTuple_congr {items : List Json} {plans : List Plan}
    (h : ∀ (i : Nat) item, items[i]? = some item →
      f (plans.getD i .native) item = g (plans.getD i .native) item) :
    runTuple f plans items = runTuple g plans items := by
  induction items generalizing plans with
  | nil => rfl
  | cons item rest ih =>
    have hfirst : f (plans.headD .native) item = g (plans.headD .native) item := by
      have hzero := h 0 item rfl
      cases plans <;> exact hzero
    have hrest : runTuple f plans.tail rest = runTuple g plans.tail rest := by
      refine ih fun i other hother => ?_
      have hlater := h (i + 1) other hother
      cases plans <;> exact hlater
    rw [runTuple, runTuple, hfirst, hrest]

theorem runEntries_congr {members : List (String × Json)} {key item : Plan}
    (hkey : ∀ member ∈ members, f key (.string member.1) = g key (.string member.1))
    (hitem : ∀ member ∈ members, f item member.2 = g item member.2) (head : TypeName)
    (out : List (String × Json)) :
    runEntries f head key item members out = runEntries g head key item members out := by
  have hentry : ∀ member ∈ members,
      runEntry f head key item member = runEntry g head key item member := by
    intro member hmember
    rw [runEntry, runEntry, hkey member hmember, hitem member hmember]
  rw [runEntries_eq, runEntries_eq, mapM_congr hentry]

theorem runContainer_congr {value : Json}
    (h : ∀ plan inside, inside.depth < value.depth → f plan inside = g plan inside)
    (head : TypeName) (kind : ContainerKind) (args : List Plan) :
    runContainer f head kind args value = runContainer g head kind args value := by
  unfold runContainer
  dsimp only
  split
  · next members =>
    rw [runEntries_congr (fun member _ => h _ _ (depth_object_pos members))
      fun member hmember => h _ _ (depth_lt_of_mem_object hmember)]
  · rfl
  · rw [runTuple_congr fun i item hitem =>
      h _ item (depth_lt_of_mem_array (List.mem_of_getElem? hitem))]
  · rfl
  · rw [mapM_congr fun item hitem => h _ item (depth_lt_of_mem_array hitem)]
  · rfl

theorem runPlan_congr {value : Json}
    (h : ∀ plan inside, inside.depth < value.depth → f plan inside = g plan inside) :
    ∀ plan : Plan, it.runPlan direction f plan value = it.runPlan direction g plan value
  | .native => by rw [runPlan, runPlan]
  | .use serializer => by
    rw [runPlan, runPlan]
    exact runNamed_congr h serializer.name
  | .nullable plan => by
    rw [runPlan, runPlan, runPlan_congr h plan]
  | .generic head args => by
    rw [runPlan.eq_def, runPlan.eq_def]
    dsimp only
    split
    · rfl
    · match args with
      | [] => rfl
      | plan :: _ => exact runPlan_congr h plan
    · exact runContainer_congr h head _ args

/-! ## §2 Levels -/

/-- Two levels above the depth of a value agree on it. -/
theorem atLevel_eq {n m : Nat} {plan : Plan} {value : Json} (hn : value.depth < n)
    (hm : value.depth < m) :
    it.atLevel direction n plan value = it.atLevel direction m plan value := by
  induction n generalizing m plan value with
  | zero => omega
  | succ n ih =>
    cases m with
    | zero => omega
    | succ m =>
      refine runPlan_congr (fun inner inside hinside => ?_) plan
      exact ih (by omega) (by omega)

/-- Runs a plan on a value of any depth. -/
def execute (it : Interpreter) (direction : Direction) (plan : Plan) (value : Json) :
    Result Json :=
  it.atLevel direction (value.depth + 1) plan value

theorem atLevel_eq_execute {n : Nat} {plan : Plan} {value : Json} (h : value.depth < n) :
    it.atLevel direction n plan value = it.execute direction plan value :=
  atLevel_eq h (Nat.lt_succ_self _)

theorem execute_eq (it : Interpreter) (direction : Direction) (plan : Plan) (value : Json) :
    it.execute direction plan value = it.runPlan direction (it.execute direction) plan value :=
  runPlan_congr (fun _ _ hinside => atLevel_eq_execute hinside) plan

theorem run_eq (it : Interpreter) (direction : Direction) (name : TypeName) (value : Json) :
    it.run direction name value = runNamed (it.execute direction) it direction name value :=
  runNamed_congr (fun _ _ hinside => atLevel_eq_execute hinside) name

/-! ## §3 Plans by themselves -/

theorem execute_native (value : Json) : it.execute direction .native value = .ok value := by
  rw [execute_eq, runPlan]

theorem execute_use (serializer : Serializer) (value : Json) :
    it.execute direction (.use serializer) value = it.run direction serializer.name value := by
  rw [execute_eq, runPlan, run_eq]

theorem execute_nullable (plan : Plan) (value : Json) :
    it.execute direction (.nullable plan) value =
      if value.isNull then .ok .null else it.execute direction plan value := by
  rw [execute_eq, runPlan, ← execute_eq]

theorem execute_generic (head : TypeName) (args : List Plan) (value : Json) :
    it.execute direction (.generic head args) value =
      match head.container? with
      | none => .ok value
      | some .transparent => it.execute direction (args.headD .native) value
      | some kind => runContainer (it.execute direction) head kind args value := by
  rw [execute_eq, runPlan.eq_def]
  dsimp only
  cases head.container? with
  | none => rfl
  | some kind =>
    cases kind with
    | transparent =>
      cases args with
      | nil => rw [execute_eq, List.headD_nil, runPlan]
      | cons plan rest => exact (execute_eq it direction plan value).symm
    | _ => rfl

end Surrogates.Execution.Interpreter
