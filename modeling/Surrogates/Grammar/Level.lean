/-
Surrogates.Grammar.Level — the knot of the productions.

`level 0` parses nothing, and in `level (n + 1)` the parts of every
production are parsed by `level n`. A production takes a token, or enters a
group, before it asks for a part, so the weight of the tokens bounds the
depth, and `typeOf` parses with more levels than that.
-/
import Surrogates.Grammar.Statement
import Surrogates.Grammar.Type

namespace Surrogates.Grammar

/-- The productions that parse nothing. -/
def Productions.none : Productions where
  type _ := fail
  bound _ := fail
  expr _ _ := fail
  rightSide _ _ := fail
  operand _ := fail
  standing := fail
  statements := fail
  single := fail
  pattern := fail
  item := fail

/-- The productions whose parts are parsed by the given ones. -/
def Productions.step (g : Productions) : Productions where
  type := Grammar.type g
  bound := Grammar.bound g
  expr := Grammar.expr g
  rightSide := Grammar.rightSide g
  operand := Grammar.operand g
  standing := Grammar.standing g
  statements := Grammar.statements g
  single := Grammar.single g
  pattern := Grammar.pattern g
  item := Grammar.item g

/-- The productions with parts nested less than `n` deep. -/
def level : Nat → Productions
  | 0 => .none
  | n + 1 => (level n).step

/-- Parses tokens that are one type and nothing else. No group in the type has
tokens left over. -/
def typeOf (tokens : List Token) : Except Fault TypeReading :=
  match (level (weights tokens + 1)).type true ⟨tokens, false⟩ with
  | .ok (reading, ⟨[], false⟩) => .ok reading
  | .ok _ => .error .malformed
  | .error fault => .error fault

end Surrogates.Grammar
