/-
Surrogates.Proofs.Execution.Normal — values normalised along plans.

Where a unit's serializer would run on an object, the object gets exactly the
fields of the surrogate in their order; what else it has is dropped, and a
field that is absent is `null`. Where a codec would run, and where nothing
would, values stay as they are. Containers are normalised item by item, and
the keys of a map stay. Levels bound the depth as they do for runs; two
levels above the depth of a value agree on it (`normalizeAtLevel_eq`), so
that `normalForm` has the equations without levels: `normalForm_eq`,
`normalize_eq`.
-/
import Surrogates.Execution.Interpreter
import Surrogates.Proofs.Json.WellFormed

namespace Surrogates.Execution.Interpreter

/-! ## §1 Normal forms -/

section

variable (inner : Plan → Json → Json)

/-- The object of a unit: the fields of the surrogate, in their order. -/
def normalizeUnit (unit : SurrogateUnit) : Json → Json
  | .object members => .object (unit.surrogate.fields.map fun field =>
      (field.name, inner field.plan ((Assoc.get? field.name members).getD .null)))
  | value => value

/-- The value of a serializer's type; codecs take values as they are. -/
def normalizeNamed (it : Interpreter) (name : TypeName) (value : Json) : Json :=
  match it.codecs.get? name with
  | some _ => value
  | none =>
    match it.units.get? name with
    | some unit => normalizeUnit inner unit value
    | none => value

/-- Items by the plans in their places; items beyond the plans stay. -/
def normalizeTuple : List Plan → List Json → List Json
  | _, [] => []
  | plans, item :: rest => inner (plans.headD .native) item :: normalizeTuple plans.tail rest

/-- A container that holds its values inside. -/
def normalizeContainer (kind : ContainerKind) (args : List Plan) (value : Json) : Json :=
  match kind, value with
  | .map, .object members =>
    .object (members.map fun (key, item) => (key, inner (args.tail.headD .native) item))
  | .map, value => value
  | .tuple, .array items => .array (normalizeTuple inner args items)
  | .tuple, value => value
  | _, .array items => .array (items.map (inner (args.headD .native)))
  | _, value => value

/-- The value of a plan, with the values inside normalised by `inner`. -/
def normalizePlan (it : Interpreter) : Plan → Json → Json
  | .native, value => value
  | .use serializer, value => normalizeNamed inner it serializer.name value
  | .nullable plan, value => if value.isNull then .null else normalizePlan it plan value
  | .generic head args, value =>
    match head.container? with
    | none => value
    | some .transparent =>
      match args with
      | [] => value
      | plan :: _ => normalizePlan it plan value
    | some kind => normalizeContainer inner kind args value

end

/-- Normalises values of depth less than the level. -/
def normalizeAtLevel (it : Interpreter) : Nat → Plan → Json → Json
  | 0 => fun _ value => value
  | n + 1 => normalizePlan (it.normalizeAtLevel n) it

/-- The value of the serializer of a name in its normal form. -/
def normalize (it : Interpreter) (name : TypeName) (value : Json) : Json :=
  normalizeNamed (it.normalizeAtLevel value.depth) it name value

/-! ## §2 What stays -/

variable {it : Interpreter} {inner : Plan → Json → Json}

theorem isNull_normalizeNamed (name : TypeName) (value : Json) :
    (normalizeNamed inner it name value).isNull = value.isNull := by
  unfold normalizeNamed
  split
  · rfl
  · split
    · cases value <;> rfl
    · rfl

/-- Normalising makes nothing `null`, and leaves `null`. -/
theorem isNull_normalizePlan (value : Json) :
    ∀ plan : Plan, (normalizePlan inner it plan value).isNull = value.isNull
  | .native => by rw [normalizePlan]
  | .use serializer => by
    rw [normalizePlan]
    exact isNull_normalizeNamed serializer.name value
  | .nullable plan => by
    rw [normalizePlan]
    split
    · next h => rw [h]; rfl
    · exact isNull_normalizePlan value plan
  | .generic head args => by
    rw [normalizePlan.eq_def]
    dsimp only
    split
    · rfl
    · match args with
      | [] => rfl
      | plan :: _ => exact isNull_normalizePlan value plan
    · next kind _ _ => cases kind <;> cases value <;> rfl

/-- Strings stay. -/
theorem normalizePlan_string (text : String) :
    ∀ plan : Plan, normalizePlan inner it plan (.string text) = .string text
  | .native => by rw [normalizePlan]
  | .use serializer => by
    rw [normalizePlan, normalizeNamed]
    split
    · rfl
    · split <;> rfl
  | .nullable plan => by
    rw [normalizePlan]
    exact normalizePlan_string text plan
  | .generic head args => by
    rw [normalizePlan.eq_def]
    dsimp only
    split
    · rfl
    · match args with
      | [] => rfl
      | plan :: _ => exact normalizePlan_string text plan
    · next kind _ _ => cases kind <;> rfl

/-! ## §3 Levels -/

section

variable {f g : Plan → Json → Json} {value : Json}

theorem normalizeNamed_congr
    (h : ∀ plan inside, inside.depth < value.depth → f plan inside = g plan inside)
    (name : TypeName) : normalizeNamed f it name value = normalizeNamed g it name value := by
  unfold normalizeNamed
  split
  · rfl
  · split
    · next unit _ =>
      cases value with
      | object members =>
        have hfields : ∀ field ∈ unit.surrogate.fields,
            (field.name, f field.plan ((Assoc.get? field.name members).getD .null)) =
              (field.name, g field.plan ((Assoc.get? field.name members).getD .null)) := by
          intro field _
          rw [h field.plan _ (Json.depth_getD_get?_lt field.name members)]
        exact congrArg Json.object (List.map_congr_left hfields)
      | _ => rfl
    · rfl

theorem normalizeTuple_congr {items : List Json} (plans : List Plan)
    (h : ∀ plan, ∀ item ∈ items, f plan item = g plan item) :
    normalizeTuple f plans items = normalizeTuple g plans items := by
  induction items generalizing plans with
  | nil => rfl
  | cons item rest ih =>
    rw [normalizeTuple, normalizeTuple, h _ item List.mem_cons_self,
      ih plans.tail fun plan other hother => h plan other (List.mem_cons_of_mem _ hother)]

theorem normalizeContainer_congr
    (h : ∀ plan inside, inside.depth < value.depth → f plan inside = g plan inside)
    (kind : ContainerKind) (args : List Plan) :
    normalizeContainer f kind args value = normalizeContainer g kind args value := by
  unfold normalizeContainer
  split
  · next members =>
    refine congrArg Json.object (List.map_congr_left fun member hmember => ?_)
    exact congrArg (Prod.mk member.1) (h _ _ (Json.depth_lt_of_mem_object hmember))
  · rfl
  · next items =>
    refine congrArg Json.array (normalizeTuple_congr args fun plan item hitem => ?_)
    exact h plan item (Json.depth_lt_of_mem_array hitem)
  · rfl
  · next items _ _ =>
    refine congrArg Json.array (List.map_congr_left fun item hitem => ?_)
    exact h _ item (Json.depth_lt_of_mem_array hitem)
  · rfl

theorem normalizePlan_congr
    (h : ∀ plan inside, inside.depth < value.depth → f plan inside = g plan inside) :
    ∀ plan : Plan, normalizePlan f it plan value = normalizePlan g it plan value
  | .native => by rw [normalizePlan, normalizePlan]
  | .use serializer => by
    rw [normalizePlan, normalizePlan]
    exact normalizeNamed_congr h serializer.name
  | .nullable plan => by
    rw [normalizePlan, normalizePlan, normalizePlan_congr h plan]
  | .generic head args => by
    rw [normalizePlan.eq_def, normalizePlan.eq_def]
    dsimp only
    split
    · rfl
    · match args with
      | [] => rfl
      | plan :: _ => exact normalizePlan_congr h plan
    · exact normalizeContainer_congr h _ args

end

/-- Two levels above the depth of a value agree on its normal form. -/
theorem normalizeAtLevel_eq {n m : Nat} {plan : Plan} {value : Json} (hn : value.depth < n)
    (hm : value.depth < m) :
    it.normalizeAtLevel n plan value = it.normalizeAtLevel m plan value := by
  induction n generalizing m plan value with
  | zero => omega
  | succ n ih =>
    cases m with
    | zero => omega
    | succ m =>
      refine normalizePlan_congr (fun inner inside hinside => ?_) plan
      exact ih (by omega) (by omega)

/-- The normal form of a value of any depth. -/
def normalForm (it : Interpreter) (plan : Plan) (value : Json) : Json :=
  it.normalizeAtLevel (value.depth + 1) plan value

theorem normalForm_eq (it : Interpreter) (plan : Plan) (value : Json) :
    it.normalForm plan value = normalizePlan it.normalForm it plan value := by
  refine normalizePlan_congr (fun inner inside hinside => ?_) plan
  exact normalizeAtLevel_eq hinside (Nat.lt_succ_self _)

theorem normalize_eq (it : Interpreter) (name : TypeName) (value : Json) :
    it.normalize name value = normalizeNamed it.normalForm it name value := by
  refine normalizeNamed_congr (fun inner inside hinside => ?_) name
  exact normalizeAtLevel_eq hinside (Nat.lt_succ_self _)

theorem normalForm_string (plan : Plan) (text : String) :
    it.normalForm plan (.string text) = .string text :=
  normalizePlan_string text plan

end Surrogates.Execution.Interpreter
