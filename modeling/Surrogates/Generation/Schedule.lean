/-
Surrogates.Generation.Schedule — the order in which entries are processed.

An entry has providers, entries that are to come before it. `next?` is the
first entry not yet placed whose providers are all placed, or, where cycles
leave none, the first not yet placed. `order` places entries until none is
left.
-/

namespace Surrogates.Schedule

/-- The first of `n` indices, not yet placed, that the test accepts. -/
def first? (n : Nat) (placed : List Nat) (accept : Nat → Bool) : Option Nat :=
  (List.range n).find? fun i => !placed.contains i && accept i

/-- The index to place next. -/
def next? (n : Nat) (providers : Nat → List Nat) (placed : List Nat) : Option Nat :=
  first? n placed (fun i => (providers i).all placed.contains)
    <|> first? n placed (fun _ => true)

/-- Places `fuel` more indices behind those placed. -/
def extend (n : Nat) (providers : Nat → List Nat) : Nat → List Nat → List Nat
  | 0, placed => placed
  | fuel + 1, placed =>
    match next? n providers placed with
    | some i => extend n providers fuel (placed ++ [i])
    | none => placed

/-- The order of `n` indices by their providers. -/
def order (n : Nat) (providers : Nat → List Nat) : List Nat :=
  extend n providers n []

end Surrogates.Schedule
