/-
Surrogates.TypeExpr.Basic — type expressions as trees.

A node has a head, arguments, and whether it is nullable: `Option<T>` is the
tree of `T`, nullable. Tuples, slices and arrays have the heads `()`, `[]`
and `[n]`. `nodes` lists the nodes, each before its arguments; `render`
writes the expression, and `renderApplied` says how a head is written with
its arguments.
-/
import Surrogates.TypeName.Basic

namespace Surrogates

/-- A type expression: a head, its arguments, and whether it may be null. -/
inductive TypeExpr where
  | node (head : TypeName) (args : List TypeExpr) (nullable : Bool)
  deriving Repr, Inhabited

namespace TypeExpr

/-! ## §1 Parts -/

/-- The name at the root. -/
def head : TypeExpr → TypeName
  | node head _ _ => head

/-- The arguments of the root. -/
def args : TypeExpr → List TypeExpr
  | node _ args _ => args

/-- Whether the root may be null. -/
def nullable : TypeExpr → Bool
  | node _ _ nullable => nullable

/-- The expression, nullable. -/
def asNullable : TypeExpr → TypeExpr
  | node head args _ => node head args true

mutual

/-- The nodes of an expression, each before its arguments. -/
def nodes : TypeExpr → List TypeExpr
  | node head args nullable => node head args nullable :: nodesOfArgs args

/-- The nodes of a list of expressions, from the first on. -/
def nodesOfArgs : List TypeExpr → List TypeExpr
  | [] => []
  | arg :: rest => nodes arg ++ nodesOfArgs rest

end

theorem nodes_eq (type : TypeExpr) : type.nodes = type :: nodesOfArgs type.args := by
  cases type
  rfl

/-- Induction over the arguments of the root. -/
@[elab_as_elim]
theorem induct {P : TypeExpr → Prop}
    (node : ∀ head args nullable, (∀ arg ∈ args, P arg) → P (.node head args nullable)) :
    ∀ t, P t
  | .node head args nullable => node head args nullable fun arg _ => induct node arg
termination_by t => t
decreasing_by
  have hless := List.sizeOf_lt_of_mem ‹arg ∈ args›
  simp only [TypeExpr.node.sizeOf_spec]
  omega

theorem mem_nodesOfArgs {args : List TypeExpr} {node : TypeExpr} :
    node ∈ nodesOfArgs args ↔ ∃ arg ∈ args, node ∈ arg.nodes := by
  induction args with
  | nil => simp [nodesOfArgs]
  | cons arg rest ih => simp [nodesOfArgs, ih]

/-- What is said of all nodes is said of the root and of all nodes of its
arguments. -/
theorem forall_nodes {P : TypeExpr → Prop} {head : TypeName} {args : List TypeExpr}
    {nullable : Bool} :
    (∀ part ∈ (node head args nullable).nodes, P part) ↔
      P (node head args nullable) ∧ ∀ arg ∈ args, ∀ part ∈ arg.nodes, P part := by
  simp only [nodes, List.forall_mem_cons, mem_nodesOfArgs]
  exact and_congr_right fun _ =>
    ⟨fun h arg harg part hpart => h part ⟨arg, harg, hpart⟩,
      fun h part ⟨arg, harg, hpart⟩ => h arg harg part hpart⟩

/-! ## §2 Equality -/

mutual

/-- Whether two expressions are the same tree. -/
def same : TypeExpr → TypeExpr → Bool
  | node head args nullable, node head' args' nullable' =>
    head == head' && nullable == nullable' && sameArgs args args'

/-- Whether two lists of expressions are the same trees. -/
def sameArgs : List TypeExpr → List TypeExpr → Bool
  | [], [] => true
  | arg :: rest, arg' :: rest' => same arg arg' && sameArgs rest rest'
  | _, _ => false

end

mutual

theorem same_iff_eq : ∀ a b : TypeExpr, same a b = true ↔ a = b
  | node head args nullable, node head' args' nullable' => by
    simp only [same, Bool.and_eq_true, beq_iff_eq, sameArgs_iff_eq args args', node.injEq]
    exact ⟨fun ⟨⟨a, b⟩, c⟩ => ⟨a, c, b⟩, fun ⟨a, c, b⟩ => ⟨⟨a, b⟩, c⟩⟩

theorem sameArgs_iff_eq : ∀ a b : List TypeExpr, sameArgs a b = true ↔ a = b
  | [], [] => by simp [sameArgs]
  | arg :: rest, arg' :: rest' => by
    simp only [sameArgs, Bool.and_eq_true, same_iff_eq arg arg', sameArgs_iff_eq rest rest',
      List.cons.injEq]
  | [], _ :: _ => by simp [sameArgs]
  | _ :: _, [] => by simp [sameArgs]

end

instance : DecidableEq TypeExpr := fun a b =>
  decidable_of_iff (same a b = true) (same_iff_eq a b)

/-! ## §3 Text -/

/-- The length between the brackets of an array's head. -/
def arrayLength (head : String) : String :=
  String.ofList
    ((head.toList.dropWhile (· == '[')).reverse.dropWhile (· == ']')).reverse

/-- A head written with its arguments: a tuple of one has a comma behind it,
and an array without an argument shows `_` for it. -/
def renderApplied (head : String) (args : List String) : String :=
  if head = "()" then
    match args with
    | [arg] => "(" ++ arg ++ ",)"
    | args => "(" ++ ", ".intercalate args ++ ")"
  else if head = "[]" then "[" ++ args.headD "_" ++ "]"
  else if head.toList.head? = some '[' then
    "[" ++ args.headD "_" ++ "; " ++ arrayLength head ++ "]"
  else if args.isEmpty then head
  else head ++ "<" ++ ", ".intercalate args ++ ">"

/-- The text of a nullable type over the text of the type. -/
def renderNullable (nullable : Bool) (core : String) : String :=
  if nullable then "Option<" ++ core ++ ">" else core

mutual

/-- The text of an expression. -/
def render : TypeExpr → String
  | node head args nullable => renderNullable nullable (renderApplied head.text (renderArgs args))

/-- The texts of a list of expressions. -/
def renderArgs : List TypeExpr → List String
  | [] => []
  | arg :: rest => render arg :: renderArgs rest

end

end TypeExpr

end Surrogates
