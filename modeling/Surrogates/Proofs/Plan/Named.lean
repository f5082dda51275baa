/-
Surrogates.Proofs.Plan.Named — the nodes that a plan names.

The serializer attached to a field is named at the root. In a field without one,
a node below the root is named if it resolves to a serializer, and all nodes
above it are built-in containers that do not: `namedAt?` tells it from the nodes
on the way, and `namedAt?_cons` one argument at a time. A plan is native exactly
if no node is named: `isNative_planField_iff`.
-/
import Surrogates.Proofs.Plan.Serializers
import Surrogates.Proofs.TypeExpr.Places

namespace Surrogates

namespace Context

variable {ctx : Context} {attached : Option Serializer} {type : TypeExpr}

/-! ## §1 The nodes that are named -/

/-- The serializer of the node at a place: at the root the one attached to the
field, and below it what the node resolves to. -/
def serializerAt? (ctx : Context) (attached : Option Serializer) (type : TypeExpr) :
    List Nat → Option Serializer
  | [] => attached
  | i :: place => (type.nodeAt? (i :: place)).bind ctx.resolve

/-- Whether the node at a place is a built-in container without a serializer. -/
def isOpenAt (ctx : Context) (attached : Option Serializer) (type : TypeExpr)
    (place : List Nat) : Bool :=
  (type.nodeAt? place).any fun node => goesOn (ctx.serializerAt? attached type place) node.head

/-- The serializer of the node at a place, if the nodes above it are built-in
containers without serializers. -/
def namedAt? (ctx : Context) (attached : Option Serializer) (type : TypeExpr)
    (place : List Nat) : Option Serializer :=
  if ∀ n < place.length, ctx.isOpenAt attached type (place.take n) = true then
    ctx.serializerAt? attached type place
  else none

theorem serializerAt?_cons (i : Nat) (place : List Nat) :
    ctx.serializerAt? attached type (i :: place) =
      type.args[i]?.bind fun arg => ctx.serializerAt? (ctx.resolve arg) arg place := by
  rw [serializerAt?, TypeExpr.nodeAt?]
  cases type.args[i]? with
  | none => rfl
  | some arg => cases place <;> rfl

theorem isOpenAt_nil : ctx.isOpenAt attached type [] = goesOn attached type.head := rfl

theorem isOpenAt_cons (i : Nat) (place : List Nat) :
    ctx.isOpenAt attached type (i :: place) =
      type.args[i]?.any fun arg => ctx.isOpenAt (ctx.resolve arg) arg place := by
  rw [isOpenAt, serializerAt?_cons, TypeExpr.nodeAt?]
  cases type.args[i]? <;> rfl

theorem namedAt?_nil : ctx.namedAt? attached type [] = attached := by
  simp [namedAt?, serializerAt?]

/-- Below the root, a node is named in an argument, if the root goes on to its
arguments. -/
theorem namedAt?_cons (i : Nat) (place : List Nat) :
    ctx.namedAt? attached type (i :: place) =
      if goesOn attached type.head = true then
        type.args[i]?.bind fun arg => ctx.namedAt? (ctx.resolve arg) arg place
      else none := by
  rw [namedAt?, serializerAt?_cons, List.length_cons]
  -- of the nodes above the place the first is the root, and the others lie in the argument
  simp only [Nat.forall_lt_succ_left, List.take_zero, List.take_succ_cons, isOpenAt_nil,
    isOpenAt_cons]
  cases hgoes : goesOn attached type.head with
  | false => simp
  | true =>
    cases type.args[i]? with
    | none => simp
    | some arg => simp [namedAt?]

theorem mem_places_of_namedAt? {place : List Nat} {s : Serializer}
    (h : ctx.namedAt? attached type place = some s) : place ∈ type.places := by
  rw [TypeExpr.mem_places_iff]
  cases place with
  | nil => rfl
  | cons i place =>
    rw [namedAt?] at h
    split at h
    · obtain ⟨node, hnode, -⟩ := Option.bind_eq_some_iff.mp h
      rw [hnode]
      rfl
    · cases h

/-- No node is named in a field without an attached serializer, exactly if none is
in the arguments to which its plan goes on. -/
theorem forall_namedAt?_eq_none_iff :
    (∀ place, ctx.namedAt? none type place = none) ↔
      (goesOn none type.head = true →
        ∀ arg ∈ type.args, ∀ place, ctx.namedAt? (ctx.resolve arg) arg place = none) := by
  constructor
  · intro h hgoes arg harg place
    obtain ⟨i, hi⟩ := List.mem_iff_getElem?.mp harg
    have hbelow := h (i :: place)
    rwa [namedAt?_cons, if_pos hgoes, hi] at hbelow
  · intro h place
    cases place with
    | nil => exact namedAt?_nil
    | cons i place =>
      rw [namedAt?_cons]
      split
      · next hgoes =>
        cases hi : type.args[i]? with
        | none => rfl
        | some arg => exact h hgoes arg (List.mem_of_getElem? hi) place
      · rfl

/-! ## §2 Plans without serializers -/

/-- Inside the type of a field, a node has the plan of a field to which the node's
serializer is attached. -/
theorem planNested_eq (ctx : Context) (type : TypeExpr) :
    ctx.planNested type = ctx.planField type (ctx.resolve type) := by
  cases type
  rw [planNested]
  rfl

theorem planField_attached (ctx : Context) (type : TypeExpr) (s : Serializer) :
    ctx.planField type (some s) = (Plan.use s).withNull type.nullable := rfl

theorem isNative_withNull (nullable : Bool) (plan : Plan) :
    (plan.withNull nullable).isNative = plan.isNative := by
  unfold Plan.withNull
  split
  · next h =>
    rw [Bool.and_eq_true, Bool.not_eq_true'] at h
    rw [h.2]
    rfl
  · rfl

theorem isNative_planContainer (head : TypeName) (args : List Plan) :
    (planContainer head args).isNative = (head.container?.isNone || args.all (·.isNative)) := by
  unfold planContainer
  split
  · next h => exact h.symm
  · next h => exact (Bool.not_eq_true _ ▸ h).symm

theorem planContainer_of_not_isNative {head : TypeName} {args : List Plan}
    (h : (planContainer head args).isNative = false) :
    goesOn none head = true ∧ planContainer head args = .generic head args := by
  rw [isNative_planContainer, Bool.or_eq_false_iff] at h
  rw [planContainer, h.1, h.2]
  simpa [goesOn] using h.1

-- By `planNested_eq` the arguments are fields in turn, so the induction is on the type
-- with any serializer attached to it.
mutual

/-- The plan of a field is native exactly if no node is named. -/
theorem isNative_planField_iff (ctx : Context) : ∀ (type : TypeExpr) (attached : Option Serializer),
    (ctx.planField type attached).isNative = true ↔
      ∀ place, ctx.namedAt? attached type place = none
  | .node head args nullable, some s => by
    have hroot : ctx.namedAt? (some s) (.node head args nullable) [] ≠ none := by
      simp [namedAt?_nil]
    refine iff_of_false ?_ fun h => hroot (h [])
    rw [planField_attached, isNative_withNull]
    simp [Plan.isNative]
  | .node head args nullable, none => by
    show ((planContainer head (ctx.planArgs args)).withNull nullable).isNative = true ↔ _
    rw [isNative_withNull, isNative_planContainer, Bool.or_eq_true, isNative_planArgs_iff ctx args,
      forall_namedAt?_eq_none_iff]
    show _ ↔ (goesOn none head = true → _)
    cases hhead : head.container? <;> simp [goesOn, hhead, TypeExpr.args]

theorem isNative_planArgs_iff (ctx : Context) : ∀ types : List TypeExpr,
    (ctx.planArgs types).all (·.isNative) = true ↔
      ∀ arg ∈ types, ∀ place, ctx.namedAt? (ctx.resolve arg) arg place = none
  | [] => by simp [planArgs]
  | arg :: rest => by
    rw [planArgs, List.all_cons, Bool.and_eq_true, planNested_eq, isNative_planField_iff ctx arg,
      isNative_planArgs_iff ctx rest, List.forall_mem_cons]

end

end Context

end Surrogates
