/-
Surrogates.Proofs.Results — successful runs of one step after another.

A run that succeeds is taken apart into the runs of its steps:
`Except.bind_eq_ok` and `Except.map_eq_ok`.
-/

namespace Surrogates

variable {ε α β : Type}

theorem Except.bind_eq_ok {result : Except ε α} {next : α → Except ε β} {b : β} :
    (result >>= next) = .ok b ↔ ∃ a, result = .ok a ∧ next a = .ok b := by
  cases result with
  | error failure => simp [bind, Except.bind]
  | ok a => simp [bind, Except.bind]

theorem Except.map_eq_ok {result : Except ε α} {f : α → β} {b : β} :
    result.map f = .ok b ↔ ∃ a, result = .ok a ∧ f a = b := by
  cases result with
  | error failure => simp [Except.map]
  | ok a => simp [Except.map]

end Surrogates
