/-
Surrogates.Proofs.TypeExpr.Normal — the trees that texts have.

`TypeExpr.Normal` says of every node that its head is a path, with any
arguments unless the path ends in a keyword, the parentheses of a tuple, with
any arguments, or the brackets of a slice or an array, with one; and that no
option stands where the argument could have been made nullable. The segments
of a path are words that the grammar takes there. One of them, `try`, it takes
only behind another segment or a separator.
-/
import Surrogates.Grammar.Path
import Surrogates.Grammar.Scan
import Surrogates.Proofs.Text.Decimal

namespace Surrogates

/-! ## §1 Words -/

namespace Grammar

open Text Scan

/-- A character that may begin an identifier, and others that may continue it. -/
def IsName (cs : List Char) : Prop :=
  ∃ c rest, cs = c :: rest ∧ Identifier.isStart c = true ∧
    ∀ d ∈ rest, Identifier.isContinue d = true

/-- The text of a word: a name, or one behind `r#` that has a raw form. -/
inductive IsWord : String → Prop where
  | plain {text : String} (name : IsName text.toList) : IsWord text
  | raw {text : String} (name : IsName text.toList) (raw : text ∉ neverRaw) :
    IsWord ("r#" ++ text)

/-- A word that may be a segment of a path: an identifier, or a keyword that the
grammar takes as a segment. -/
structure IsSegment (text : String) : Prop where
  word : IsWord text
  taken : isIdentifier text = true ∨ text = "Self" ∨ text ∈ bareSegments

/-- The text of a path of segments. -/
def pathText (rooted : Bool) (segments : List String) : String :=
  (if rooted then "::" else "") ++ "::".intercalate segments

/-- The segments of a path that is a type: the first is not `try`, unless a
separator leads it. -/
structure IsPath (rooted : Bool) (segments : List String) : Prop where
  all : ∀ text ∈ segments, IsSegment text
  first : rooted = false → segments.head? ≠ some "try"

end Grammar

/-! ## §2 Normal trees -/

namespace TypeExpr

open Grammar

/-- Heads with the arguments that they may have. -/
inductive HeadNormal : String → List TypeExpr → Prop where
  /-- Nothing is applied to a path that ends in a keyword other than `Self`. -/
  | path {rooted : Bool} {before : List String} {last : String} {args : List TypeExpr}
    (path : IsPath rooted (before ++ [last])) (bare : last ∈ bareSegments → args = []) :
    HeadNormal (pathText rooted (before ++ [last])) args
  | tuple (args : List TypeExpr) : HeadNormal "()" args
  | slice (arg : TypeExpr) : HeadNormal "[]" [arg]
  | array (length : Nat) (arg : TypeExpr) : HeadNormal ("[" ++ toString length ++ "]") [arg]

/-- A node as the tree of a text has it. -/
structure NodeNormal (node : TypeExpr) : Prop where
  head : HeadNormal node.head.text node.args
  folded : node.head.text ∈ optionNames → ∀ arg, node.args = [arg] → arg.nullable = true

/-- A tree with nodes as the trees of texts have them. -/
def Normal (t : TypeExpr) : Prop :=
  ∀ node ∈ t.nodes, NodeNormal node

/-- The lengths of arrays in a tree fit 64 bits. -/
def LengthsFit (t : TypeExpr) : Prop :=
  ∀ node ∈ t.nodes, ∀ length : Nat, node.head.text = "[" ++ toString length ++ "]" →
    length < Nat.pow 2 64

theorem array_ne_unit (length : Nat) : "[" ++ toString length ++ "]" ≠ "()" := by
  intro heq
  simpa using congrArg (fun head => head.toList.head?) heq

theorem array_ne_slice (length : Nat) : "[" ++ toString length ++ "]" ≠ "[]" := by
  intro heq
  have hlist : '[' :: ((toString length).toList ++ [']']) = ['[', ']'] := by
    simpa using congrArg String.toList heq
  exact Text.toList_toString_ne_nil length (List.append_cancel_right (List.cons.inj hlist).2)

theorem normal_node {head : TypeName} {args : List TypeExpr} {nullable : Bool} :
    Normal (node head args nullable) ↔
      NodeNormal (node head args nullable) ∧ ∀ arg ∈ args, Normal arg :=
  forall_nodes

theorem lengthsFit_node {head : TypeName} {args : List TypeExpr} {nullable : Bool} :
    LengthsFit (node head args nullable) ↔
      (∀ length : Nat, head.text = "[" ++ toString length ++ "]" → length < Nat.pow 2 64) ∧
        ∀ arg ∈ args, LengthsFit arg :=
  forall_nodes

/-- Whether the root may be null does not matter. -/
theorem normal_asNullable {t : TypeExpr} : t.asNullable.Normal ↔ t.Normal := by
  obtain ⟨head, args, nullable⟩ := t
  rw [asNullable, normal_node, normal_node]
  exact and_congr_left fun _ => ⟨fun ⟨h, f⟩ => ⟨h, f⟩, fun ⟨h, f⟩ => ⟨h, f⟩⟩

theorem lengthsFit_asNullable {t : TypeExpr} : t.asNullable.LengthsFit ↔ t.LengthsFit := by
  obtain ⟨head, args, nullable⟩ := t
  rw [asNullable, lengthsFit_node, lengthsFit_node]

end TypeExpr

end Surrogates
