/-
Surrogates.Proofs.Execution.Closure — runs that find every serializer.

An interpreter provides a name by a codec, or by a unit if no codec takes the
name. It is closed if the plans of its units use no other names than those
it provides, however the units refer to one another. What is run by a plan
that uses provided names only never meets an unknown serializer, level by
level (`found_atLevel`), and so no run of a provided name does: `found_run`.
-/
import Surrogates.Proofs.Execution.Loops
import Surrogates.Proofs.Plan.Serializers

namespace Surrogates.Execution

variable {α β : Type}

/-! ## §1 Results -/

/-- On the way to a result every serializer was found. -/
def Result.Found (result : Result α) : Prop :=
  ∀ name, result ≠ .error (.unknownSerializer name)

namespace Result

theorem found_ok (a : α) : Found (.ok a) := by
  intro name h
  cases h

theorem Found.bind {result : Result α} {next : α → Result β} (h : result.Found)
    (hnext : ∀ a, (next a).Found) : Found (result >>= next) := by
  cases result with
  | error failure =>
    intro name heq
    cases heq
    exact h name rfl
  | ok a => exact hnext a

theorem Found.map {result : Result α} (h : result.Found) (f : α → β) : Found (result.map f) := by
  cases result with
  | error failure =>
    intro name heq
    cases heq
    exact h name rfl
  | ok a => exact found_ok (f a)

theorem found_mapM {f : α → Result β} (items : List α) (h : ∀ item, (f item).Found) :
    Found (items.mapM f) := by
  induction items with
  | nil => exact found_ok []
  | cons item rest ih =>
    rw [List.mapM_cons]
    exact (h item).bind fun b => ih.bind fun bs => found_ok (b :: bs)

end Result

/-! ## §2 What an interpreter provides -/

/-- A codec that never answers that a serializer is unknown. -/
def Codec.Knows (codec : Codec) : Prop :=
  ∀ direction value, (codec.run direction value).Found

/-- Shifting integers looks for no serializer. -/
theorem Codec.knows_shift (n : Int) : (shift n).Knows := by
  have hadd : ∀ (m : Int) (value : Json), Result.Found (addInt m value) := by
    intro m value name
    unfold addInt
    split
    · simp
    · split <;> simp
  intro direction value
  cases direction with
  | encode => exact hadd n value
  | decode => exact hadd (-n) value

namespace Interpreter

/-- The serializer that a name has, a codec before a unit, is there. -/
def Provides (it : Interpreter) (name : TypeName) : Prop :=
  match it.codecs.get? name with
  | some codec => codec.Knows
  | none => it.units.contains name = true

/-- A plan uses provided names only. -/
def Serves (it : Interpreter) (plan : Plan) : Prop :=
  ∀ s ∈ plan.serializers, it.Provides s.name

/-- The plans of all units use provided names only. -/
def Closed (it : Interpreter) : Prop :=
  ∀ name unit, it.units.get? name = some unit →
    ∀ field ∈ unit.surrogate.fields, it.Serves field.plan

variable {it : Interpreter} {direction : Direction}

theorem serves_native : it.Serves .native := by
  intro s hs
  cases hs

theorem Serves.of_nullable {inner : Plan} (h : it.Serves (.nullable inner)) : it.Serves inner := by
  intro s hs
  exact h s (by rwa [Plan.serializers])

theorem Serves.of_generic {head : TypeName} {args : List Plan}
    (h : it.Serves (.generic head args)) : ∀ plan ∈ args, it.Serves plan := by
  intro plan hplan s hs
  refine h s ?_
  rw [Plan.serializers, Plan.mem_serializersOfArgs]
  exact ⟨plan, hplan, hs⟩

theorem serves_headD {plans : List Plan} (h : ∀ plan ∈ plans, it.Serves plan) :
    it.Serves (plans.headD .native) := by
  cases plans with
  | nil => exact serves_native
  | cons plan rest => exact h plan List.mem_cons_self

theorem serves_tail {plans : List Plan} (h : ∀ plan ∈ plans, it.Serves plan) :
    ∀ plan ∈ plans.tail, it.Serves plan :=
  fun plan hplan => h plan (List.mem_of_mem_tail hplan)

/-! ## §3 One level -/

variable {inner : Plan → Json → Result Json}

theorem found_fieldValue (type : TypeName) (field : SurrogateField)
    (source : List (String × Json)) : (fieldValue type field source).Found := by
  intro name
  unfold fieldValue
  split
  · simp
  · split <;> simp

theorem found_runFields (hinner : ∀ plan value, it.Serves plan → (inner plan value).Found)
    (type : TypeName) {fields : List SurrogateField}
    (hfields : ∀ field ∈ fields, it.Serves field.plan) (source out : List (String × Json)) :
    (runFields inner type fields source out).Found := by
  induction fields generalizing source out with
  | nil => exact Result.found_ok out
  | cons field rest ih =>
    refine (found_fieldValue type field source).bind fun value => ?_
    refine (hinner field.plan value (hfields field List.mem_cons_self)).bind fun value => ?_
    exact ih (fun other hother => hfields other (List.mem_cons_of_mem _ hother)) _ _

/-- A provided name is found, and what its unit's fields use is too. -/
theorem found_runNamed (hclosed : it.Closed)
    (hinner : ∀ plan value, it.Serves plan → (inner plan value).Found) {name : TypeName}
    (hname : it.Provides name) (value : Json) : (runNamed inner it direction name value).Found := by
  unfold Provides at hname
  unfold runNamed
  split
  · next codec hcodec =>
    rw [hcodec] at hname
    exact hname direction value
  · next hcodec =>
    rw [hcodec] at hname
    obtain ⟨unit, hunit⟩ := Option.isSome_iff_exists.mp hname
    rw [hunit]
    dsimp only
    unfold runUnit
    split
    · exact (found_runFields hinner _ (hclosed name unit hunit) _ _).map _
    · intro other h
      cases h

theorem found_runTuple (hinner : ∀ plan value, it.Serves plan → (inner plan value).Found)
    {plans : List Plan} (hplans : ∀ plan ∈ plans, it.Serves plan) (items : List Json) :
    (runTuple inner plans items).Found := by
  induction items generalizing plans with
  | nil => exact Result.found_ok []
  | cons item rest ih =>
    refine (hinner _ item (serves_headD hplans)).bind fun item => ?_
    exact (ih (serves_tail hplans)).bind fun rest => Result.found_ok _

theorem found_runEntries (hinner : ∀ plan value, it.Serves plan → (inner plan value).Found)
    {key item : Plan} (hkey : it.Serves key) (hitem : it.Serves item) (head : TypeName)
    (members out : List (String × Json)) : (runEntries inner head key item members out).Found := by
  have hentry : ∀ member, (runEntry inner head key item member).Found := by
    intro member
    refine (hinner key _ hkey).bind fun name => ?_
    split
    · exact (hinner item _ hitem).bind fun value => Result.found_ok _
    · intro other h
      cases h
  rw [runEntries_eq]
  exact (Result.found_mapM members hentry).map _

theorem found_runContainer (hinner : ∀ plan value, it.Serves plan → (inner plan value).Found)
    {args : List Plan} (hargs : ∀ plan ∈ args, it.Serves plan) (head : TypeName)
    (kind : ContainerKind) (value : Json) :
    (runContainer inner head kind args value).Found := by
  unfold runContainer
  dsimp only
  split
  · exact (found_runEntries hinner (serves_headD hargs) (serves_headD (serves_tail hargs))
      head _ _).map _
  · intro other h
    cases h
  · exact (found_runTuple hinner hargs _).map _
  · intro other h
    cases h
  · exact (Result.found_mapM _ fun item => hinner _ item (serves_headD hargs)).map _
  · intro other h
    cases h

/-! ## §4 All levels -/

theorem found_runPlan (hclosed : it.Closed)
    (hinner : ∀ plan value, it.Serves plan → (inner plan value).Found) :
    ∀ (plan : Plan) (value : Json), it.Serves plan → (it.runPlan direction inner plan value).Found
  | .native, value, _ => by
    rw [runPlan]
    exact Result.found_ok value
  | .use serializer, value, h => by
    rw [runPlan]
    exact found_runNamed hclosed hinner (h serializer (by simp [Plan.serializers])) value
  | .nullable plan, value, h => by
    rw [runPlan]
    split
    · exact Result.found_ok Json.null
    · exact found_runPlan hclosed hinner plan value h.of_nullable
  | .generic head args, value, h => by
    rw [runPlan.eq_def]
    dsimp only
    split
    · exact Result.found_ok value
    · match args, h.of_generic with
      | [], _ => exact Result.found_ok value
      | plan :: _, hargs =>
        exact found_runPlan hclosed hinner plan value (hargs plan List.mem_cons_self)
    · exact found_runContainer hinner h.of_generic head _ value

theorem found_atLevel (hclosed : it.Closed) (level : Nat) (plan : Plan) (value : Json)
    (h : it.Serves plan) : (it.atLevel direction level plan value).Found := by
  induction level generalizing plan value with
  | zero => exact Result.found_ok value
  | succ level ih => exact found_runPlan hclosed ih plan value h

/-- In a closed interpreter a run of a provided name finds every serializer. -/
theorem found_run (hclosed : it.Closed) {name : TypeName} (hname : it.Provides name)
    (direction : Direction) (value : Json) : (it.run direction name value).Found :=
  found_runNamed hclosed (found_atLevel hclosed value.depth) hname value

end Interpreter

end Surrogates.Execution
