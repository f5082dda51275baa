/-
Surrogates.Proofs.Generation.Schedule — every index is placed once.

`next?` gives an index that is not placed as long as there is one, so each
unit of fuel places one index more, and `n` units of fuel place all of them:
`order_perm`. Then nothing is next, so more fuel gives the same order
(`extend_of_le`). What holds of the order holds because each of its indices is
next behind those before it: `next?_of_order`. Where no index has providers,
they are placed as they are numbered: `order_eq_range`.
-/
import Surrogates.Generation.Schedule
import Surrogates.Proofs.Distinct

namespace Surrogates.Schedule

variable {n : Nat} {providers : Nat → List Nat}

/-! ## §1 The next index -/

theorem first?_eq_some {placed : List Nat} {accept : Nat → Bool} {i : Nat}
    (h : first? n placed accept = some i) : i < n ∧ i ∉ placed := by
  have hmem := List.mem_of_find?_eq_some h
  have haccept := List.find?_some h
  simp only [Bool.and_eq_true, Bool.not_eq_true', List.contains_eq_mem,
    decide_eq_false_iff_not] at haccept
  exact ⟨List.mem_range.mp hmem, haccept.1⟩

theorem next?_eq_some {placed : List Nat} {i : Nat} (h : next? n providers placed = some i) :
    i < n ∧ i ∉ placed := by
  rw [next?, Option.orElse_eq_orElse, Option.orElse_eq_or, Option.or_eq_some_iff] at h
  rcases h with hready | ⟨-, hany⟩
  · exact first?_eq_some hready
  · exact first?_eq_some hany

/-- Nothing is next only when all indices are placed. -/
theorem mem_of_next?_eq_none {placed : List Nat} {i : Nat}
    (h : next? n providers placed = none) (hi : i < n) : i ∈ placed := by
  rw [next?, Option.orElse_eq_orElse, Option.orElse_eq_or, Option.or_eq_none_iff] at h
  have hany := List.find?_eq_none.mp h.2 i (List.mem_range.mpr hi)
  simpa using hany

/-! ## §2 All indices -/

/-- The indices placed stay distinct and below `n`. -/
theorem extend_distinct (fuel : Nat) {placed : List Nat} (hnodup : placed.Nodup)
    (hlt : ∀ i ∈ placed, i < n) :
    (extend n providers fuel placed).Nodup ∧ ∀ i ∈ extend n providers fuel placed, i < n := by
  induction fuel generalizing placed with
  | zero => exact ⟨hnodup, hlt⟩
  | succ fuel ih =>
    rw [extend]
    split
    · next i h =>
      obtain ⟨hi, hnot⟩ := next?_eq_some h
      refine ih (List.nodup_append.mpr ⟨hnodup, by simp, ?_⟩) ?_
      · intro a ha b hb hab
        rw [List.mem_singleton.mp hb] at hab
        exact hnot (hab ▸ ha)
      · intro j hj
        rcases List.mem_append.mp hj with hj | hj
        · exact hlt j hj
        · exact List.mem_singleton.mp hj ▸ hi
    · exact ⟨hnodup, hlt⟩

/-- Each unit of fuel places an index, unless all are placed. -/
theorem extend_complete (fuel : Nat) (placed : List Nat) :
    placed.length + fuel ≤ (extend n providers fuel placed).length ∨
      ∀ i < n, i ∈ extend n providers fuel placed := by
  induction fuel generalizing placed with
  | zero => exact .inl (Nat.le_refl _)
  | succ fuel ih =>
    rw [extend]
    split
    · next i h =>
      rcases ih (placed ++ [i]) with hlength | hall
      · rw [List.length_append, List.length_singleton] at hlength
        exact .inl (by omega)
      · exact .inr hall
    · next h => exact .inr fun i hi => mem_of_next?_eq_none h hi

/-- The order holds each of the `n` indices once. -/
theorem order_perm (n : Nat) (providers : Nat → List Nat) :
    (order n providers).Perm (List.range n) := by
  obtain ⟨hnodup, hlt⟩ : (order n providers).Nodup ∧ ∀ i ∈ order n providers, i < n :=
    extend_distinct n List.nodup_nil (by simp)
  refine (List.perm_ext_iff_of_nodup hnodup List.nodup_range).mpr fun i => ?_
  rw [List.mem_range]
  refine ⟨hlt i, fun hi => ?_⟩
  have hcomplete : 0 + n ≤ (order n providers).length ∨ ∀ i < n, i ∈ order n providers :=
    extend_complete n []
  rcases hcomplete with hlength | hall
  · exact mem_of_nodup_of_length hnodup hlt (by omega) hi
  · exact hall i hi

/-- What is placed is next behind what is placed before it. -/
theorem next?_of_extend (fuel : Nat) {placed : List Nat}
    (h : ∀ earlier i later, placed = earlier ++ i :: later → next? n providers earlier = some i)
    {earlier later : List Nat} {i : Nat}
    (hsplit : extend n providers fuel placed = earlier ++ i :: later) :
    next? n providers earlier = some i := by
  induction fuel generalizing placed with
  | zero => exact h earlier i later hsplit
  | succ fuel ih =>
    rw [extend] at hsplit
    split at hsplit
    · next k hnext =>
      refine ih (fun before j rest heq => ?_) hsplit
      rcases List.eq_nil_or_concat rest with rfl | ⟨middle, last, rfl⟩
      · obtain ⟨rfl, hlast⟩ := List.append_inj' heq rfl
        cases hlast
        exact hnext
      · have heq : placed ++ [k] = (before ++ j :: middle) ++ [last] := by simpa using heq
        exact h before j middle (List.append_inj' heq rfl).1
    · exact h earlier i later hsplit

/-- Every index of the order is next behind those before it. -/
theorem next?_of_order {earlier later : List Nat} {i : Nat}
    (h : order n providers = earlier ++ i :: later) : next? n providers earlier = some i :=
  next?_of_extend n (fun earlier i later h => by simp at h) h

theorem extend_of_next?_eq_none {placed : List Nat} (h : next? n providers placed = none)
    (fuel : Nat) : extend n providers fuel placed = placed := by
  cases fuel with
  | zero => rfl
  | succ fuel => rw [extend, h]

theorem extend_add (fuel more : Nat) (placed : List Nat) :
    extend n providers (fuel + more) placed =
      extend n providers more (extend n providers fuel placed) := by
  induction fuel generalizing placed with
  | zero => rw [Nat.zero_add, extend]
  | succ fuel ih =>
    rw [Nat.succ_add, extend, extend]
    split
    · exact ih _
    · next h => exact (extend_of_next?_eq_none h more).symm

/-- When the order is complete nothing is next, so more fuel gives the same. -/
theorem extend_of_le {fuel : Nat} (h : n ≤ fuel) :
    extend n providers fuel [] = order n providers := by
  obtain ⟨more, rfl⟩ := Nat.exists_eq_add_of_le h
  have hnone : next? n providers (order n providers) = none := by
    cases hnext : next? n providers (order n providers) with
    | none => rfl
    | some i =>
      obtain ⟨hi, hnot⟩ := next?_eq_some hnext
      exact absurd ((order_perm n providers).mem_iff.mpr (List.mem_range.mpr hi)) hnot
  rw [extend_add]
  exact extend_of_next?_eq_none hnone more

/-! ## §3 No providers -/

/-- Where no index has providers, the least one that is not placed is next. -/
theorem next?_range (hproviders : ∀ i < n, providers i = []) {k : Nat} (hk : k < n) :
    next? n providers (List.range k) = some k := by
  have hfirst : first? n (List.range k)
      (fun i => (providers i).all (List.range k).contains) = some k := by
    refine List.find?_range_eq_some.mpr ⟨?_, List.mem_range.mpr hk, fun i hi => ?_⟩
    · simp [hproviders k hk]
    · simp [hi]
  rw [next?, hfirst]
  rfl

theorem extend_range (hproviders : ∀ i < n, providers i = []) (fuel : Nat) {k : Nat}
    (hk : k + fuel ≤ n) : extend n providers fuel (List.range k) = List.range (k + fuel) := by
  induction fuel generalizing k with
  | zero => rfl
  | succ fuel ih =>
    rw [extend, next?_range hproviders (by omega)]
    show extend n providers fuel (List.range k ++ [k]) = _
    rw [← List.range_succ, ih (by omega), Nat.succ_add_eq_add_succ]

/-- Indices without providers are placed in their own order. -/
theorem order_eq_range (hproviders : ∀ i < n, providers i = []) :
    order n providers = List.range n := by
  have hextend := extend_range hproviders n (k := 0) (by omega)
  rwa [List.range_zero, Nat.zero_add] at hextend

end Surrogates.Schedule
