/-
Surrogates.Proofs.Execution.Collapse — plans without what leaves values as they
are.

The full plan of a type has each of its containers and options, also where no
serializer occurs in them. A field's plan leaves those out. One plan may stand for
another if it gives the result of the other wherever that gives one
(`MayReplace`), and this is kept by options and by containers. A container of
native plans gives only the value itself (`native_mayReplace_generic`), a map
because the keys of an object are distinct. So a field's plan may stand for its
full plan: `execute_planField_of_full`.
-/
import Mathlib.Data.List.Forall2
import Surrogates.Proofs.Execution.Levels
import Surrogates.Proofs.Plan.Named

namespace Surrogates

/-! ## §1 Full plans -/

namespace Context

/-- The full plan of a container over the full plans of its arguments. -/
def fullContainer (head : TypeName) (args : List Plan) : Plan :=
  if head.container?.isSome then .generic head args else .native

/-- The full plan of a type that may be null, over that of the type. -/
def fullNull (nullable : Bool) (plan : Plan) : Plan :=
  if nullable then .nullable plan else plan

mutual

/-- The full plan of a type inside the type of a field. -/
def fullNested (ctx : Context) : TypeExpr → Plan
  | .node head args nullable =>
    let core : Plan := match ctx.resolveHead head with
      | some serializer => .use serializer
      | none => fullContainer head (ctx.fullArgs args)
    fullNull nullable core

/-- The full plans of a list of types inside the type of a field. -/
def fullArgs (ctx : Context) : List TypeExpr → List Plan
  | [] => []
  | arg :: rest => ctx.fullNested arg :: ctx.fullArgs rest

end

/-- The full plan of a field's type with the serializer attached to the field. -/
def fullField (ctx : Context) (type : TypeExpr) (attached : Option Serializer) : Plan :=
  let core : Plan := match attached with
    | some serializer => .use serializer
    | none => fullContainer type.head (ctx.fullArgs type.args)
  fullNull type.nullable core

end Context

namespace Execution.Interpreter

/-! ## §2 Plans that may stand for others -/

/-- A plan may stand for another: it gives the result of the other wherever that
gives one. -/
def MayReplace (it : Interpreter) (direction : Direction) (plan other : Plan) : Prop :=
  ∀ value result, value.WellFormed → it.execute direction other value = .ok result →
    it.execute direction plan value = .ok result

variable {it : Interpreter} {direction : Direction} {plan other : Plan}
  {plans others : List Plan}

theorem MayReplace.refl (plan : Plan) : MayReplace it direction plan plan :=
  fun _ _ _ h => h

theorem MayReplace.trans {last : Plan} (h : MayReplace it direction plan other)
    (hlast : MayReplace it direction other last) : MayReplace it direction plan last :=
  fun value result hvalue hrun => h value result hvalue (hlast value result hvalue hrun)

/-- The plan under an option may be replaced. -/
theorem MayReplace.nullable (h : MayReplace it direction plan other) :
    MayReplace it direction (.nullable plan) (.nullable other) := by
  intro value result hvalue hrun
  rw [execute_nullable] at hrun ⊢
  split at hrun
  · next hnull => rwa [if_pos hnull]
  · next hnull =>
    rw [if_neg hnull]
    exact h value result hvalue hrun

theorem native_mayReplace_nullable : MayReplace it direction .native (.nullable .native) := by
  intro value result _ hrun
  rw [execute_nullable, execute_native] at hrun
  rw [execute_native, ← hrun]
  cases value <;> rfl

/-! ## §3 Containers -/

theorem headD_mayReplace (h : List.Forall₂ (MayReplace it direction) plans others) :
    MayReplace it direction (plans.headD .native) (others.headD .native) := by
  cases h with
  | nil => exact .refl .native
  | cons hfirst _ => exact hfirst

theorem tail_mayReplace (h : List.Forall₂ (MayReplace it direction) plans others) :
    List.Forall₂ (MayReplace it direction) plans.tail others.tail := by
  cases h with
  | nil => exact .nil
  | cons _ hrest => exact hrest

theorem runTuple_ok_of_ok (h : List.Forall₂ (MayReplace it direction) plans others)
    {items results : List Json} (hitems : ∀ item ∈ items, item.WellFormed)
    (hrun : runTuple (it.execute direction) others items = .ok results) :
    runTuple (it.execute direction) plans items = .ok results := by
  induction items generalizing plans others results with
  | nil =>
    rw [runTuple] at hrun ⊢
    exact hrun
  | cons item rest ih =>
    rw [runTuple] at hrun ⊢
    obtain ⟨first, hfirst, hlater⟩ := Except.bind_eq_ok.mp hrun
    obtain ⟨later, hrest, heq⟩ := Except.bind_eq_ok.mp hlater
    rw [headD_mayReplace h item first (hitems item List.mem_cons_self) hfirst,
      show runTuple _ plans.tail rest = .ok later from
        ih (tail_mayReplace h) (fun other hother => hitems other (List.mem_cons_of_mem _ hother))
          hrest]
    exact heq

theorem runContainer_ok_of_ok (h : List.Forall₂ (MayReplace it direction) plans others)
    {head : TypeName} {kind : ContainerKind} {value result : Json} (hvalue : value.WellFormed)
    (hrun : runContainer (it.execute direction) head kind others value = .ok result) :
    runContainer (it.execute direction) head kind plans value = .ok result := by
  unfold runContainer at hrun ⊢
  dsimp only at hrun ⊢
  split at hrun
  · next members =>
    obtain ⟨-, hmembers⟩ := hvalue.of_object
    rw [runEntries_eq] at hrun ⊢
    obtain ⟨out, hout, rfl⟩ := Except.map_eq_ok.mp hrun
    obtain ⟨entries, hentries, rfl⟩ := Except.map_eq_ok.mp hout
    rw [mapM_ok_of_ok (fun member hmember entry hentry => ?_) hentries]
    · rfl
    · obtain ⟨hkey, hitem⟩ := runEntry_eq_ok.mp hentry
      exact runEntry_eq_ok.mpr
        ⟨headD_mayReplace h _ _ (.string member.1) hkey,
          headD_mayReplace (tail_mayReplace h) _ _ (hmembers member hmember) hitem⟩
  · cases hrun
  · obtain ⟨out, hout, rfl⟩ := Except.map_eq_ok.mp hrun
    rw [runTuple_ok_of_ok h hvalue.of_array hout]
    rfl
  · cases hrun
  · obtain ⟨out, hout, rfl⟩ := Except.map_eq_ok.mp hrun
    rw [mapM_ok_of_ok (fun item hitem b hb => ?_) hout]
    · rfl
    · exact headD_mayReplace h item b (hvalue.of_array item hitem) hb
  · cases hrun

/-- The plans in a container may be replaced. -/
theorem MayReplace.generic (h : List.Forall₂ (MayReplace it direction) plans others)
    (head : TypeName) :
    MayReplace it direction (.generic head plans) (.generic head others) := by
  intro value result hvalue hrun
  rw [execute_generic] at hrun ⊢
  split at hrun
  · exact hrun
  · exact headD_mayReplace h value result hvalue hrun
  · exact runContainer_ok_of_ok h hvalue hrun

/-! ## §4 Containers of native plans -/

theorem headD_of_native (h : plans.all (·.isNative) = true) : plans.headD .native = .native := by
  cases plans with
  | nil => rfl
  | cons plan rest =>
    rw [List.all_cons, Bool.and_eq_true] at h
    exact Plan.isNative_iff.mp h.1

theorem tail_of_native (h : plans.all (·.isNative) = true) :
    plans.tail.all (·.isNative) = true := by
  cases plans with
  | nil => rfl
  | cons plan rest =>
    rw [List.all_cons, Bool.and_eq_true] at h
    exact h.2

theorem runTuple_of_native (h : plans.all (·.isNative) = true) (items : List Json) :
    runTuple (it.execute direction) plans items = .ok items := by
  induction items generalizing plans with
  | nil => rw [runTuple]
  | cons item rest ih =>
    rw [runTuple, headD_of_native h, execute_native, ih (tail_of_native h)]
    rfl

/-- A map of distinct keys is put together again as it was. -/
theorem runEntries_of_native {members : List (String × Json)} (h : (Assoc.keys members).Nodup)
    (head : TypeName) :
    runEntries (it.execute direction) head .native .native members [] = .ok members := by
  have hentry : ∀ member ∈ members,
      runEntry (it.execute direction) head .native .native member = pure member :=
    fun member _ => runEntry_eq_ok.mpr ⟨execute_native _, execute_native _⟩
  rw [runEntries_eq, mapM_congr hentry, List.mapM_pure, List.map_id']
  exact congrArg Except.ok (Assoc.foldl_put_eq_append h (by simp [Assoc.keys]))

theorem runContainer_of_native (h : plans.all (·.isNative) = true) {head : TypeName}
    {kind : ContainerKind} {value result : Json} (hvalue : value.WellFormed)
    (hrun : runContainer (it.execute direction) head kind plans value = .ok result) :
    result = value := by
  unfold runContainer at hrun
  rw [headD_of_native h, headD_of_native (tail_of_native h)] at hrun
  dsimp only at hrun
  split at hrun
  · rw [runEntries_of_native hvalue.of_object.1] at hrun
    exact (Except.ok.inj hrun).symm
  · cases hrun
  · rw [runTuple_of_native h] at hrun
    exact (Except.ok.inj hrun).symm
  · cases hrun
  · next items _ _ =>
    have hitems : items.mapM (it.execute direction .native) = .ok items := by
      rw [mapM_congr (g := pure) fun item _ => execute_native item, List.mapM_pure, List.map_id']
      rfl
    rw [hitems] at hrun
    exact (Except.ok.inj hrun).symm
  · cases hrun

/-- A container of native plans gives a value as it is, if it takes it at all. -/
theorem native_mayReplace_generic (h : plans.all (·.isNative) = true) (head : TypeName) :
    MayReplace it direction .native (.generic head plans) := by
  intro value result hvalue hrun
  rw [execute_native]
  rw [execute_generic] at hrun
  split at hrun
  · exact hrun
  · rwa [headD_of_native h, execute_native] at hrun
  · rw [runContainer_of_native h hvalue hrun]

/-! ## §5 The plans of types -/

theorem withNull_mayReplace (h : MayReplace it direction plan other) (nullable : Bool) :
    MayReplace it direction (plan.withNull nullable) (Context.fullNull nullable other) := by
  cases nullable with
  | false => exact h
  | true =>
    -- over a native plan the option is left out, and `null` is as it is all the same
    cases hnative : plan.isNative with
    | false =>
      rw [Plan.withNull, hnative]
      exact h.nullable
    | true =>
      rw [Plan.isNative_iff.mp hnative] at h ⊢
      exact native_mayReplace_nullable.trans h.nullable

theorem planContainer_mayReplace (h : List.Forall₂ (MayReplace it direction) plans others)
    (head : TypeName) :
    MayReplace it direction (Context.planContainer head plans)
      (Context.fullContainer head others) := by
  rw [Context.planContainer, Context.fullContainer]
  cases head.container? with
  | none => exact .refl .native
  | some kind =>
    have hgeneric := MayReplace.generic h head
    cases hnative : plans.all (·.isNative) with
    | false => exact hgeneric
    | true => exact (native_mayReplace_generic hnative head).trans hgeneric

mutual

theorem planNested_mayReplace (it : Interpreter) (direction : Direction) (ctx : Context) :
    ∀ type : TypeExpr, MayReplace it direction (ctx.planNested type) (ctx.fullNested type)
  | .node head args nullable => by
    rw [Context.planNested, Context.fullNested]
    refine withNull_mayReplace ?_ nullable
    cases ctx.resolveHead head with
    | some found => exact .refl (.use found)
    | none => exact planContainer_mayReplace (planArgs_mayReplace it direction ctx args) head

theorem planArgs_mayReplace (it : Interpreter) (direction : Direction) (ctx : Context) :
    ∀ types : List TypeExpr,
      List.Forall₂ (MayReplace it direction) (ctx.planArgs types) (ctx.fullArgs types)
  | [] => by
    rw [Context.planArgs, Context.fullArgs]
    exact .nil
  | arg :: rest => by
    rw [Context.planArgs, Context.fullArgs]
    exact .cons (planNested_mayReplace it direction ctx arg)
      (planArgs_mayReplace it direction ctx rest)

end

/-- **A field's plan does what its full plan does.** Wherever the full plan gives a
result, the plan that leaves out the containers and options without serializers
gives the same. -/
theorem execute_planField_of_full (it : Interpreter) (direction : Direction) (ctx : Context)
    (type : TypeExpr) (attached : Option Serializer) {value result : Json}
    (hvalue : value.WellFormed)
    (h : it.execute direction (ctx.fullField type attached) value = .ok result) :
    it.execute direction (ctx.planField type attached) value = .ok result := by
  refine withNull_mayReplace ?_ type.nullable value result hvalue h
  cases attached with
  | some found => exact .refl (.use found)
  | none =>
    exact planContainer_mayReplace (planArgs_mayReplace it direction ctx type.args) type.head

/-- Members have a serializer, and numbers have none. -/
def scoreContext : Context := ⟨.ofList [⟨⟨"Member"⟩, false, []⟩], .ofOptions .standard, .empty⟩

/-- The best member of each team, if there is one, and the scores of the team. -/
def scoreType : TypeExpr :=
  .node ⟨"HashMap"⟩
    [.node ⟨"String"⟩ [] false,
     .node ⟨"()"⟩
       [.node ⟨"Member"⟩ [] true, .node ⟨"Vec"⟩ [.node ⟨"u8"⟩ [] true] false] false] false

/-- Members are wrapped. -/
def scoreInterpreter : Interpreter := Interpreter.empty.register ⟨"MemberSerializer"⟩ .wrapped

/-- A team with a best member, and one without. -/
def scoreValue : Json :=
  .object
    [("red", .array [.string "ann", .array [.ofInt 3, .null]]), ("blue", .array [.null, .array []])]

/-- The same with the best member wrapped. -/
def scoreResult : Json :=
  .object
    [("red", .array [.object [("wrapped", .string "ann")], .array [.ofInt 3, .null]]),
     ("blue", .array [.null, .array []])]

theorem wellFormed_scoreValue : scoreValue.WellFormed := by
  have hempty : (Json.object []).WellFormed := .object [] List.nodup_nil (by simp)
  have hscores : (Json.array [.ofInt 3, .null]).WellFormed :=
    .array _ (by simpa using ⟨.number _, .null⟩)
  have hred : (Json.array [.string "ann", .array [.ofInt 3, .null]]).WellFormed :=
    .array _ (by simpa using ⟨.string _, hscores⟩)
  have hblue : (Json.array [.null, .array []]).WellFormed :=
    .array _ (by simpa using ⟨.null, .array [] (by simp)⟩)
  exact Json.wellFormed_put "blue" (Json.wellFormed_put "red" hempty hred) hblue

/-- The scores are run by the full plan only, and come out the same. -/
theorem execute_planField_scores :
    scoreContext.fullField scoreType none =
        .generic ⟨"HashMap"⟩
          [.native, .generic ⟨"()"⟩
            [.nullable (.use (.derived ⟨"MemberSerializer"⟩)),
             .generic ⟨"Vec"⟩ [.nullable .native]]] ∧
      scoreContext.planField scoreType none =
        .generic ⟨"HashMap"⟩
          [.native, .generic ⟨"()"⟩
            [.nullable (.use (.derived ⟨"MemberSerializer"⟩)), .native]] ∧
      scoreValue.WellFormed ∧
      scoreInterpreter.execute .encode (scoreContext.fullField scoreType none) scoreValue =
        .ok scoreResult ∧
      scoreInterpreter.execute .encode (scoreContext.planField scoreType none) scoreValue =
        .ok scoreResult := by
  have hfull : scoreInterpreter.execute .encode (scoreContext.fullField scoreType none)
      scoreValue = .ok scoreResult := rfl
  exact ⟨rfl, rfl, wellFormed_scoreValue, hfull,
    execute_planField_of_full scoreInterpreter .encode scoreContext scoreType none
      wellFormed_scoreValue hfull⟩

/-- What is no list of scores is refused by the full plan only. -/
example :
    let scores : TypeExpr := .node ⟨"Vec"⟩ [.node ⟨"u8"⟩ [] true] false
    scoreInterpreter.execute .encode (scoreContext.fullField scores none) (.bool true) =
        .error (.shape ⟨"Vec"⟩ .array (.bool true)) ∧
      scoreInterpreter.execute .encode (scoreContext.planField scores none) (.bool true) =
        .ok (.bool true) :=
  ⟨rfl, rfl⟩

end Execution.Interpreter

end Surrogates
