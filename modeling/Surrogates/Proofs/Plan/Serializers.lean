/-
Surrogates.Proofs.Plan.Serializers — where the serializers of a plan come from.

A plan goes on from a node to its arguments only if the node has no serializer
and is a container. The nodes to which it gets are `reached`, and the
serializers that it uses are theirs, in order: `serializers_planNested`. For a
field the serializer of the root is the one attached to it
(`serializers_planField`). Plans pass over nodes, those below a serializer and
those in types of the user: nothing is passed over exactly if each node with
arguments is a container without a serializer (`reached_eq_nodes_iff`).
-/
import Surrogates.Plan.OfType
import Surrogates.Proofs.Distinct

namespace Surrogates

namespace Plan

theorem isNative_iff {plan : Plan} : plan.isNative = true ↔ plan = .native := by
  cases plan <;> simp [isNative]

/-- The plan of a type that may be null uses what the plan of the type uses. -/
@[simp] theorem serializers_withNull (nullable : Bool) (plan : Plan) :
    (plan.withNull nullable).serializers = plan.serializers := by
  unfold withNull
  split
  · rw [serializers]
  · rfl

theorem mem_serializersOfArgs {args : List Plan} {s : Serializer} :
    s ∈ serializersOfArgs args ↔ ∃ plan ∈ args, s ∈ plan.serializers := by
  induction args with
  | nil => simp [serializersOfArgs]
  | cons plan rest ih => simp [serializersOfArgs, ih]

theorem serializersOfArgs_eq_nil {args : List Plan} (h : args.all (·.isNative) = true) :
    serializersOfArgs args = [] := by
  induction args with
  | nil => rfl
  | cons plan rest ih =>
    rw [List.all_cons, Bool.and_eq_true] at h
    rw [serializersOfArgs, ih h.2, isNative_iff.mp h.1]
    rfl

end Plan

namespace Context

variable {ctx : Context}

/-! ## §1 The nodes that a plan reaches -/

/-- Whether a plan goes on to the arguments of a node: it has no serializer and
is a container. -/
def goesOn (found : Option Serializer) (head : TypeName) : Bool :=
  found.isNone && head.container?.isSome

mutual

/-- The nodes of a type that its plan reaches. -/
def reached (ctx : Context) : TypeExpr → List TypeExpr
  | .node head args nullable =>
    .node head args nullable ::
      if goesOn (ctx.resolveHead head) head then ctx.reachedOfArgs args else []

/-- The nodes of a list of types that their plans reach. -/
def reachedOfArgs (ctx : Context) : List TypeExpr → List TypeExpr
  | [] => []
  | arg :: rest => ctx.reached arg ++ ctx.reachedOfArgs rest

end

mutual

/-- A plan reaches nodes of its type, in their order. -/
theorem reached_sublist (ctx : Context) : ∀ type : TypeExpr, (ctx.reached type).Sublist type.nodes
  | .node head args nullable => by
    rw [reached, TypeExpr.nodes]
    refine List.Sublist.cons_cons _ ?_
    split
    · exact reachedOfArgs_sublist ctx args
    · exact List.nil_sublist _

theorem reachedOfArgs_sublist (ctx : Context) :
    ∀ types : List TypeExpr, (ctx.reachedOfArgs types).Sublist (TypeExpr.nodesOfArgs types)
  | [] => List.Sublist.slnil
  | arg :: rest => (reached_sublist ctx arg).append (reachedOfArgs_sublist ctx rest)

end

/-- Whether plans go on at all nodes of a list that have arguments. -/
def GoesThrough (ctx : Context) (nodes : List TypeExpr) : Prop :=
  ∀ node ∈ nodes, node.args = [] ∨ goesOn (ctx.resolve node) node.head = true

/-- What holds of the plan of each type in a list holds of the list. -/
theorem reachedOfArgs_eq_of_forall {types : List TypeExpr}
    (h : ∀ type ∈ types, ctx.reached type = type.nodes ↔ ctx.GoesThrough type.nodes) :
    ctx.reachedOfArgs types = TypeExpr.nodesOfArgs types ↔
      ctx.GoesThrough (TypeExpr.nodesOfArgs types) := by
  induction types with
  | nil => simp [reachedOfArgs, TypeExpr.nodesOfArgs, GoesThrough]
  | cons arg rest ih =>
    obtain ⟨harg, hrest⟩ := List.forall_mem_cons.mp h
    rw [reachedOfArgs, TypeExpr.nodesOfArgs, GoesThrough, List.forall_mem_append]
    show _ ↔ ctx.GoesThrough _ ∧ ctx.GoesThrough _
    rw [← harg, ← ih hrest]
    exact append_eq_append_iff_of_sublist (reached_sublist ctx arg) (reachedOfArgs_sublist ctx rest)

/-- A plan reaches every node exactly if it goes on wherever there are arguments. -/
theorem reached_eq_nodes_iff (ctx : Context) (type : TypeExpr) :
    ctx.reached type = type.nodes ↔ ctx.GoesThrough type.nodes := by
  induction type using TypeExpr.induct with
  | node head args nullable ih =>
    have hargs := reachedOfArgs_eq_of_forall ih
    rw [reached, TypeExpr.nodes, GoesThrough, List.forall_mem_cons]
    show _ ↔ (args = [] ∨ goesOn (ctx.resolveHead head) head = true) ∧ ctx.GoesThrough _
    rw [← hargs, List.cons_inj_right]
    cases hgoes : goesOn (ctx.resolveHead head) head with
    | true => simp
    | false =>
      cases args with
      | nil => simp [reachedOfArgs, TypeExpr.nodesOfArgs]
      | cons arg rest => simp [TypeExpr.nodesOfArgs, arg.nodes_eq]

theorem reachedOfArgs_eq_nodesOfArgs_iff (ctx : Context) (types : List TypeExpr) :
    ctx.reachedOfArgs types = TypeExpr.nodesOfArgs types ↔
      ctx.GoesThrough (TypeExpr.nodesOfArgs types) :=
  reachedOfArgs_eq_of_forall fun type _ => reached_eq_nodes_iff ctx type

/-! ## §2 The serializers that a plan uses -/

/-- A container uses what its arguments use, and a type of the user nothing. -/
theorem serializers_planContainer (head : TypeName) (args : List Plan) :
    (planContainer head args).serializers =
      if head.container?.isSome then Plan.serializersOfArgs args else [] := by
  unfold planContainer
  cases hcontainer : head.container? with
  | none => rfl
  | some kind =>
    simp only [Option.isNone_some, Bool.false_or, Option.isSome_some, if_true]
    split
    · next hnative => exact (Plan.serializersOfArgs_eq_nil hnative).symm
    · rfl

mutual

/-- A plan uses the serializers of the nodes that it reaches. -/
theorem serializers_planNested (ctx : Context) : ∀ type : TypeExpr,
    (ctx.planNested type).serializers = (ctx.reached type).filterMap ctx.resolve
  | .node head args nullable => by
    have hroot : ctx.resolve (.node head args nullable) = ctx.resolveHead head := rfl
    rw [planNested, Plan.serializers_withNull, reached, List.filterMap_cons, hroot]
    cases hresolve : ctx.resolveHead head with
    | some found => simp [Plan.serializers, goesOn]
    | none =>
      show (planContainer head (ctx.planArgs args)).serializers = _
      rw [serializers_planContainer, serializersOfArgs_planArgs ctx args, goesOn]
      cases head.container? <;> simp

theorem serializersOfArgs_planArgs (ctx : Context) : ∀ types : List TypeExpr,
    Plan.serializersOfArgs (ctx.planArgs types) = (ctx.reachedOfArgs types).filterMap ctx.resolve
  | [] => rfl
  | arg :: rest => by
    rw [planArgs, Plan.serializersOfArgs, reachedOfArgs, List.filterMap_append,
      serializers_planNested ctx arg, serializersOfArgs_planArgs ctx rest]

end

/-- The plan of a field uses the serializer attached to the field, or those of
the nodes that it reaches inside the field's type. -/
theorem serializers_planField (ctx : Context) (type : TypeExpr) (attached : Option Serializer) :
    (ctx.planField type attached).serializers =
      attached.toList ++
        if goesOn attached type.head then (ctx.reachedOfArgs type.args).filterMap ctx.resolve
        else [] := by
  unfold planField
  rw [Plan.serializers_withNull]
  cases attached with
  | some found => simp [Plan.serializers, goesOn]
  | none =>
    show (planContainer type.head (ctx.planArgs type.args)).serializers = _
    rw [serializers_planContainer, serializersOfArgs_planArgs, goesOn]
    cases type.head.container? <;> simp

theorem mem_serializers_planField {type : TypeExpr} {attached : Option Serializer} {s : Serializer}
    (h : s ∈ (ctx.planField type attached).serializers) :
    attached = some s ∨ ∃ node ∈ TypeExpr.nodesOfArgs type.args, ctx.resolve node = some s := by
  rw [serializers_planField, List.mem_append] at h
  rcases h with hroot | hinside
  · exact .inl (Option.mem_toList.mp hroot)
  · split at hinside
    · obtain ⟨node, hnode, hresolve⟩ := List.mem_filterMap.mp hinside
      exact .inr ⟨node, (reachedOfArgs_sublist ctx type.args).subset hnode, hresolve⟩
    · cases hinside

end Context

end Surrogates
