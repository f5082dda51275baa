/-
Surrogates.Proofs.Generation.Precedence — indices behind their providers.

The next index is the least whose providers are all placed, or, where every
index that is left waits for one that is left too, the least of these
(`isNext_of_next?`). Of the latter there are finitely many, so following
providers from any of them comes to a cycle (`exists_cycle`). Each index of the
order therefore stands behind all its providers, unless a cycle can be reached
from it: `follows_order`. Where there are no cycles, all do:
`mem_earlier_of_acyclic`.
-/
import Mathlib.Data.Fintype.Card
import Mathlib.Logic.Relation
import Mathlib.Order.Bounds.Basic
import Mathlib.Order.Interval.Set.Nat
import Surrogates.Proofs.Generation.Schedule

namespace Surrogates.Schedule

variable {n : Nat} {providers : Nat → List Nat}

/-! ## §1 Cycles -/

/-- Whether an index waits for another one to be placed. -/
def Awaits (providers : Nat → List Nat) (i j : Nat) : Prop :=
  j ∈ providers i

/-- No index waits for itself, be it through others. -/
def Acyclic (providers : Nat → List Nat) : Prop :=
  ∀ i, ¬Relation.TransGen (Awaits providers) i i

/-- Whether following providers from an index comes to a cycle. -/
def Circular (providers : Nat → List Nat) (i : Nat) : Prop :=
  ∃ k, Relation.ReflTransGen (Awaits providers) i k ∧ Relation.TransGen (Awaits providers) k k

/-- Indices of which each waits for another of them come to a cycle, since they
are not infinitely many. -/
theorem exists_cycle (waiting : Nat → Prop) (hlt : ∀ k, waiting k → k < n)
    (hnext : ∀ k, waiting k → ∃ j ∈ providers k, waiting j) {i : Nat} (hi : waiting i) :
    Circular providers i := by
  refine Classical.byContradiction fun hnone => ?_
  let reached : Set Nat :=
    { k | waiting k ∧ Relation.ReflTransGen (Awaits providers) i k }
  have hfinite : Finite reached := (Set.finite_lt_nat n).subset fun k hk => hlt k hk.1
  -- where no cycle is reached, one of them waits for none
  let later : reached → reached → Prop := fun j k => Relation.TransGen (Awaits providers) k.1 j.1
  have htrans : IsTrans reached later := ⟨fun _ _ _ hjk hkl => hkl.trans hjk⟩
  have hirrefl : Std.Irrefl later := ⟨fun k hk => hnone ⟨k.1, k.2.2, hk⟩⟩
  have hwf : WellFounded later := Finite.wellFounded_of_trans_of_irrefl later
  obtain ⟨k, -, hlast⟩ := hwf.has_min Set.univ ⟨⟨i, hi, .refl⟩, trivial⟩
  obtain ⟨j, hj, hwaits⟩ := hnext k.1 k.2.1
  exact hlast ⟨j, hwaits, k.2.2.tail hj⟩ trivial (.single hj)

/-! ## §2 The next index -/

/-- The indices that are not placed. -/
def Left (n : Nat) (placed : List Nat) : Set Nat :=
  { i | i < n ∧ i ∉ placed }

/-- Those of them whose providers are all placed. -/
def Free (n : Nat) (providers : Nat → List Nat) (placed : List Nat) : Set Nat :=
  { i | i ∈ Left n placed ∧ ∀ j ∈ providers i, j ∈ placed }

/-- Whether an index is the least of those that are free, or none is free and it
is the least of those that are left. -/
def IsNext (n : Nat) (providers : Nat → List Nat) (placed : List Nat) (i : Nat) : Prop :=
  IsLeast (Free n providers placed) i ∨
    Free n providers placed = ∅ ∧ IsLeast (Left n placed) i

theorem isLeast_of_first? {placed : List Nat} {accept : Nat → Bool} {i : Nat}
    (h : first? n placed accept = some i) :
    IsLeast { k | k ∈ Left n placed ∧ accept k = true } i := by
  have hleft := first?_eq_some h
  obtain ⟨haccept, -, hbefore⟩ := List.find?_range_eq_some.mp h
  refine ⟨⟨hleft, ((Bool.and_eq_true ..).mp haccept).2⟩, ?_⟩
  rintro k ⟨⟨-, hnot⟩, hk⟩
  refine Nat.le_of_not_lt fun hlt => ?_
  have hrefused := hbefore k hlt
  simp [hnot, hk] at hrefused

/-- The index that is placed next is the least that is free, or else the least
that is left. -/
theorem isNext_of_next? {placed : List Nat} {i : Nat} (h : next? n providers placed = some i) :
    IsNext n providers placed i := by
  rw [next?, Option.orElse_eq_orElse, Option.orElse_eq_or, Option.or_eq_some_iff] at h
  rcases h with hfree | ⟨hnone, hleft⟩
  · left
    simpa [Free] using isLeast_of_first? hfree
  · right
    refine ⟨Set.eq_empty_iff_forall_notMem.mpr ?_, by simpa using isLeast_of_first? hleft⟩
    rintro k ⟨⟨hk, hnot⟩, hplaced⟩
    have hrefused := List.find?_eq_none.mp hnone k (List.mem_range.mpr hk)
    obtain ⟨j, hj, hwaits⟩ : ∃ j ∈ providers k, j ∉ placed := by simpa [hnot] using hrefused
    exact hwaits (hplaced j hj)

/-- Where none is free, each index that is left waits for another of them. -/
theorem exists_left_of_free_eq_empty (hlt : ∀ i < n, ∀ j ∈ providers i, j < n)
    {placed : List Nat} (h : Free n providers placed = ∅) {k : Nat} (hk : k ∈ Left n placed) :
    ∃ j ∈ providers k, j ∈ Left n placed := by
  refine Classical.byContradiction fun hnone => ?_
  have hfree : k ∈ Free n providers placed := by
    refine ⟨hk, fun j hj => Classical.byContradiction fun hnot => ?_⟩
    exact hnone ⟨j, hj, hlt k hk.1 j hj, hnot⟩
  exact Set.notMem_empty k (h ▸ hfree)

/-! ## §3 Indices behind their providers -/

/-- Whether every index of a list stands behind its providers, unless a cycle
can be reached from it. -/
def Follows (providers : Nat → List Nat) (order : List Nat) : Prop :=
  ∀ earlier i later, order = earlier ++ i :: later →
    (∀ j ∈ providers i, j ∈ earlier) ∨ Circular providers i

/-- Every index of the order stands behind its providers, unless a cycle can be
reached from it. -/
theorem follows_order (hlt : ∀ i < n, ∀ j ∈ providers i, j < n) :
    Follows providers (order n providers) := by
  intro earlier i later hsplit
  rcases isNext_of_next? (next?_of_order hsplit) with hfree | ⟨hstuck, hleft⟩
  · exact .inl hfree.1.2
  · exact .inr (exists_cycle (· ∈ Left n earlier) (fun _ hk => hk.1)
      (fun _ hk => exists_left_of_free_eq_empty hlt hstuck hk) hleft.1)

/-- Where there are no cycles, every index of the order stands behind its
providers. -/
theorem mem_earlier_of_acyclic (hlt : ∀ i < n, ∀ j ∈ providers i, j < n)
    (hacyclic : Acyclic providers) {earlier later : List Nat} {i j : Nat}
    (horder : order n providers = earlier ++ i :: later) (hj : j ∈ providers i) : j ∈ earlier := by
  rcases follows_order hlt earlier i later horder with hbefore | ⟨k, -, hcycle⟩
  · exact hbefore j hj
  · exact absurd hcycle (hacyclic k)

end Surrogates.Schedule
