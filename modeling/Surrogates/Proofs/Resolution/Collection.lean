/-
Surrogates.Proofs.Resolution.Collection — what a type needs, collected node by
node.

Overrides are made by calls, and of several calls for one type the first is kept
(`get?_types_ofCalls`); those of an entry are made by the calls of the entry
(`ofCalls_calls`). Each node of a type may add a serializer to a set that keeps
its order. Over a list of nodes this gives first occurrences
(`foldl_addResolved`), and a visit of a tree goes through the list of its nodes
(`visit_eq_foldl`), so that it does not matter whether one set is passed through
the whole tree or each argument has a set of its own: `collected_in_order`.
-/
import Surrogates.Proofs.Distinct
import Surrogates.Proofs.Resolution.Context

namespace Surrogates

/-! ## §1 Overrides by calls -/

/-- A call that adds an override. -/
inductive OverrideCall where
  | ofType (type serializer : TypeName)
  | ofField (owner : TypeName) (field : String) (serializer : TypeName)
  deriving DecidableEq, Repr

/-- The serializer that a call names for a type. -/
def OverrideCall.serializer? (type : TypeName) : OverrideCall → Option Serializer
  | ofType overridden serializer =>
    if overridden = type then some (.explicit serializer) else none
  | ofField .. => none

theorem OverrideCall.serializer?_eq_some {call : OverrideCall} {type : TypeName} {s : Serializer}
    (h : call.serializer? type = some s) : ∃ name, call = .ofType type name ∧ s = .explicit name := by
  cases call with
  | ofField owner field serializer => cases h
  | ofType overridden serializer =>
    rw [serializer?] at h
    split at h
    · next heq =>
      subst heq
      exact ⟨serializer, rfl, (Option.some.inj h).symm⟩
    · cases h

/-- The calls that an entry stands for: its types, and then its fields. -/
def Entry.calls (entry : Entry) : List OverrideCall :=
  (entry.classOverrides.map fun decl => .ofType decl.type decl.serializer) ++
    (Overrides.fieldDecls entry).map fun (owner, decl) =>
      .ofField owner decl.field decl.serializer

namespace Overrides

/-- Adds the override of a call. -/
def perform (overrides : Overrides) : OverrideCall → Except DuplicateOverride Overrides
  | .ofType type serializer => overrides.addType type serializer
  | .ofField owner field serializer => overrides.addField owner field serializer

/-- The overrides that calls make. A call that is refused adds nothing. -/
def ofCalls (calls : List OverrideCall) : Overrides :=
  (addAll perform empty calls).2

/-- The overrides of an entry are made by its calls. -/
theorem ofCalls_calls {entry : Entry} {overrides : Overrides} (h : ofEntry entry = .ok overrides) :
    ofCalls entry.calls = overrides := by
  rw [ofCalls, Entry.calls, addAll_append, addAll_map, addAll_map]
  unfold ofEntry at h
  dsimp only at h
  split at h
  · cases h
    rfl
  · cases h

/-- A call that is not refused gives its type a serializer, and leaves all other
types as they are. -/
theorem get?_types_of_perform_ok {overrides after : Overrides} {call : OverrideCall}
    (h : overrides.perform call = .ok after) (type : TypeName) :
    after.types.get? type = (overrides.types.get? type).or (call.serializer? type) := by
  cases call with
  | ofType overridden serializer =>
    rw [perform, addType] at h
    split at h
    · cases h
    · next hnot =>
      cases h
      rw [Table.get?_insert, OverrideCall.serializer?]
      by_cases heq : overridden = type
      · subst heq
        have hnone : overrides.types.get? overridden = none := by
          simpa [Table.contains] using hnot
        rw [if_pos rfl, if_pos rfl, hnone, Option.none_or]
      · rw [if_neg (Ne.symm heq), if_neg heq, Option.or_none]
  | ofField owner field serializer =>
    rw [types_addField h, OverrideCall.serializer?, Option.or_none]

/-- A call is refused only if it would give its type or field a second serializer. -/
theorem get?_types_of_perform_error {overrides : Overrides} {call : OverrideCall}
    {duplicate : DuplicateOverride} (h : overrides.perform call = .error duplicate)
    (type : TypeName) :
    (overrides.types.get? type).or (call.serializer? type) = overrides.types.get? type := by
  cases call with
  | ofType overridden serializer =>
    rw [OverrideCall.serializer?]
    by_cases heq : overridden = type
    · rw [perform, addType, heq] at h
      split at h
      · next hhas =>
        obtain ⟨found, hfound⟩ := Option.isSome_iff_exists.mp hhas
        rw [hfound, Option.some_or]
      · cases h
    · rw [if_neg heq, Option.or_none]
  | ofField owner field serializer => rw [OverrideCall.serializer?, Option.or_none]

/-- Calls give a type the serializer of the first call for it, unless it has one. -/
theorem get?_types_addAll_perform (calls : List OverrideCall) (overrides : Overrides)
    (type : TypeName) :
    (addAll perform overrides calls).2.types.get? type =
      (overrides.types.get? type).or (calls.findSome? (·.serializer? type)) := by
  induction calls generalizing overrides with
  | nil => exact (Option.or_none).symm
  | cons call rest ih =>
    have hfirst : (call :: rest).findSome? (·.serializer? type) =
        (call.serializer? type).or (rest.findSome? (·.serializer? type)) := by
      rw [List.findSome?_cons]
      cases call.serializer? type <;> rfl
    rw [addAll, hfirst, ← Option.or_assoc]
    cases hcall : overrides.perform call with
    | ok after => rw [← get?_types_of_perform_ok hcall]; exact ih after
    | error duplicate => rw [get?_types_of_perform_error hcall]; exact ih overrides

/-- Of the calls for a type the first is kept. -/
theorem get?_types_ofCalls (calls : List OverrideCall) (type : TypeName) :
    (ofCalls calls).types.get? type = calls.findSome? (·.serializer? type) :=
  get?_types_addAll_perform calls empty type

end Overrides

/-! ## §2 Visits -/

namespace TypeExpr

section

variable {σ : Type}

mutual

/-- Visits the nodes of an expression, each before its arguments, and passes on
what each of them leaves. -/
def visit (step : σ → TypeExpr → σ) (state : σ) : TypeExpr → σ
  | node head args nullable => visitArgs step (step state (node head args nullable)) args

/-- Visits the nodes of a list of expressions, from the first on. -/
def visitArgs (step : σ → TypeExpr → σ) (state : σ) : List TypeExpr → σ
  | [] => state
  | arg :: rest => visitArgs step (visit step state arg) rest

end

mutual

/-- A visit goes through the list of the nodes. -/
theorem visit_eq_foldl (step : σ → TypeExpr → σ) (state : σ) : ∀ type : TypeExpr,
    visit step state type = type.nodes.foldl step state
  | node head args nullable => by
    rw [visit, nodes, List.foldl_cons]
    exact visitArgs_eq_foldl step _ args

theorem visitArgs_eq_foldl (step : σ → TypeExpr → σ) (state : σ) : ∀ types : List TypeExpr,
    visitArgs step state types = (nodesOfArgs types).foldl step state
  | [] => rfl
  | arg :: rest => by
    rw [visitArgs, visit_eq_foldl step state arg, visitArgs_eq_foldl step _ rest, nodesOfArgs,
      List.foldl_append]

end

end

theorem nodesOfArgs_eq_flatMap (args : List TypeExpr) : nodesOfArgs args = args.flatMap nodes := by
  induction args with
  | nil => rfl
  | cons arg rest ih => rw [nodesOfArgs, ih, List.flatMap_cons]

end TypeExpr

/-! ## §3 What is collected -/

namespace Context

variable {ctx : Context}

/-- Puts the serializer of a node, if it has one, behind those found, unless it is
among them. -/
def addResolved (ctx : Context) (found : List Serializer) (node : TypeExpr) : List Serializer :=
  match ctx.resolve node with
  | some s => if s ∈ found then found else found ++ [s]
  | none => found

/-- What nodes add are the first occurrences behind what was found before. -/
theorem foldl_addResolved (ctx : Context) (nodes : List TypeExpr) {found : List Serializer}
    (h : found.Nodup) :
    nodes.foldl ctx.addResolved found = (found ++ nodes.filterMap ctx.resolve).eraseDups := by
  induction nodes generalizing found with
  | nil => simpa using (eraseDups_of_nodup h).symm
  | cons node rest ih =>
    rw [List.foldl_cons, addResolved]
    cases hresolve : ctx.resolve node with
    | none => rw [List.filterMap_cons_none hresolve, ih h]
    | some s =>
      rw [List.filterMap_cons_some hresolve]
      dsimp only
      split
      · next hs => rw [eraseDups_append_cons_of_mem hs, ih h]
      · next hs =>
        have hnodup : (found ++ [s]).Nodup := List.nodup_append.mpr
          ⟨h, by simp, fun a ha b hb => by
            obtain rfl := List.mem_singleton.mp hb
            exact ne_of_mem_of_not_mem ha hs⟩
        rw [ih hnodup, List.append_assoc, List.singleton_append]

/-- A visit of a type leaves what was found before, and then what the type needs
beyond it. -/
theorem visit_addResolved (ctx : Context) (type : TypeExpr) {found : List Serializer}
    (h : found.Nodup) :
    type.visit ctx.addResolved found = (found ++ ctx.collect type).eraseDups := by
  rw [TypeExpr.visit_eq_foldl, foldl_addResolved ctx _ h, collect, eraseDups_append_eraseDups]

/-- What a type needs is what its root has, and then what its arguments need. -/
theorem collect_eq (ctx : Context) (type : TypeExpr) :
    ctx.collect type =
      ((ctx.resolve type).toList ++ type.args.flatMap ctx.collect).eraseDups := by
  have hargs : ((TypeExpr.nodesOfArgs type.args).filterMap ctx.resolve).eraseDups =
      (type.args.flatMap ctx.collect).eraseDups := by
    rw [TypeExpr.nodesOfArgs_eq_flatMap, List.filterMap_flatMap]
    exact (eraseDups_flatMap_eraseDups _ _).symm
  have hroot : (type :: TypeExpr.nodesOfArgs type.args).filterMap ctx.resolve =
      (ctx.resolve type).toList ++ (TypeExpr.nodesOfArgs type.args).filterMap ctx.resolve := by
    cases hresolve : ctx.resolve type with
    | none => exact List.filterMap_cons_none hresolve
    | some s => exact List.filterMap_cons_some hresolve
  rw [collect, type.nodes_eq, hroot, ← eraseDups_append_eraseDups, hargs,
    eraseDups_append_eraseDups]

theorem mem_collect {type : TypeExpr} {s : Serializer} :
    s ∈ ctx.collect type ↔ ∃ node ∈ type.nodes, ctx.resolve node = some s := by
  rw [collect, List.mem_eraseDups, List.mem_filterMap]

/-- A serializer that a node resolves to is named by a call for its head, or derived
for its head. -/
theorem resolve_ofCalls_cases {catalog : Catalog} {naming : Naming} {calls : List OverrideCall}
    {node : TypeExpr} {s : Serializer}
    (h : Context.resolve ⟨catalog, naming, .ofCalls calls⟩ node = some s) :
    (∃ name, s = .explicit name ∧ .ofType node.head name ∈ calls) ∨
      (Context.needsDerived ⟨catalog, naming, .ofCalls calls⟩ node.head = true ∧
        s = naming.serializer node.head) := by
  rcases resolve_eq_some h with hget | hderived
  · rw [Overrides.get?_types_ofCalls] at hget
    obtain ⟨call, hcall, hnamed⟩ := List.exists_of_findSome?_eq_some hget
    obtain ⟨name, rfl, rfl⟩ := OverrideCall.serializer?_eq_some hnamed
    exact .inl ⟨name, rfl, hcall⟩
  · exact .inr hderived

/-- **What a type needs.** Whatever calls made the overrides: a visit of a type that
passes one set through all nodes finds what the type's root has, and then what its
arguments need, from the first on, each serializer once, where it occurs first.
Each of them is explicit and named by a call for the head of a node, or derived for
the head of a node. -/
theorem collected_in_order (catalog : Catalog) (naming : Naming) (calls : List OverrideCall)
    (type : TypeExpr) :
    let ctx : Context := ⟨catalog, naming, .ofCalls calls⟩
    ctx.collect type = type.visit ctx.addResolved [] ∧
      (ctx.collect type).Nodup ∧
      ctx.collect type =
        ((ctx.resolve type).toList ++ type.args.flatMap ctx.collect).eraseDups ∧
      ∀ s ∈ ctx.collect type, ∃ node ∈ type.nodes,
        (∃ name, s = .explicit name ∧ .ofType node.head name ∈ calls) ∨
          (ctx.needsDerived node.head = true ∧ s = naming.serializer node.head) := by
  intro ctx
  refine ⟨?_, nodup_eraseDups _, collect_eq ctx type, fun s hs => ?_⟩
  · rw [visit_addResolved ctx type List.nodup_nil, List.nil_append]
    exact (eraseDups_of_nodup (nodup_eraseDups _)).symm
  · obtain ⟨node, hnode, hresolve⟩ := mem_collect.mp hs
    exact ⟨node, hnode, resolve_ofCalls_cases hresolve⟩

/-- A roster gives numbers a member and a team, of which members are an argument
again. -/
def rosterType : TypeExpr :=
  .node ⟨"HashMap"⟩
    [.node ⟨"u32"⟩ [] false,
     .node ⟨"()"⟩
      [.node ⟨"Member"⟩ [] false,
       .node ⟨"Team"⟩ [.node ⟨"Member"⟩ [] true, .node ⟨"u32"⟩ [] false] true] false] false

/-- Members and teams are declared, and two serializers are named for numbers. -/
def rosterContext : Context where
  catalog := .ofList [⟨⟨"Team"⟩, false, []⟩, ⟨⟨"Member"⟩, false, []⟩]
  naming := .ofOptions .standard
  overrides := .ofCalls [.ofType ⟨"u32"⟩ ⟨"Padded"⟩, .ofType ⟨"u32"⟩ ⟨"Hex"⟩]

/-- The second call for numbers is refused, and a member comes up before a team, so
that it is not found again inside of it. -/
theorem collected_in_order_roster :
    rosterContext.collect rosterType =
        [.explicit ⟨"Padded"⟩, .derived ⟨"MemberSerializer"⟩, .derived ⟨"TeamSerializer"⟩] ∧
      Serializer.derived ⟨"TeamSerializer"⟩ ∈ rosterContext.collect rosterType ∧
      ∃ node ∈ rosterType.nodes, rosterContext.needsDerived node.head = true ∧
        Serializer.derived ⟨"TeamSerializer"⟩ = rosterContext.naming.serializer node.head := by
  obtain ⟨hvisit, -, -, hmembers⟩ := collected_in_order rosterContext.catalog rosterContext.naming
    [.ofType ⟨"u32"⟩ ⟨"Padded"⟩, .ofType ⟨"u32"⟩ ⟨"Hex"⟩] rosterType
  have hfound : Serializer.derived ⟨"TeamSerializer"⟩ ∈ rosterContext.collect rosterType := by
    decide
  refine ⟨hvisit.trans (by decide), hfound, ?_⟩
  obtain ⟨node, hnode, ⟨name, hexplicit, -⟩ | hderived⟩ := hmembers _ hfound
  · cases hexplicit
  · exact ⟨node, hnode, hderived⟩

end Context

end Surrogates
