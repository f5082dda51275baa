/-
Surrogates.Proofs.Source.Aliases — every serializer gets a name of its own.

A simple name and the same with the numbers from 2 on are all different, so
one more of them than names are taken leaves one that is free: `freeName_eq`
finds the first. `Aliases.Assigned` is what giving names keeps: the names
given are taken, no two serializers have the same, and only the file's own
serializer has one of those taken in advance. It holds of the aliases of
every unit (`assigned_ofUnit`), and they name every serializer that the unit
imports (`exists_get?_ofUnit`).
-/
import Surrogates.Proofs.Text.Decimal
import Surrogates.Source.Aliases
import Mathlib.Data.List.Nodup

namespace Surrogates.Source

/-! ## §1 Free names -/

/-- The candidates for a name in order: the simple name, and then with the
numbers from 2 on. -/
def candidate (simple : String) : Nat → String
  | 0 => simple
  | i + 1 => simple ++ toString (i + 2)

theorem candidate_injective (simple : String) : Function.Injective (candidate simple) := by
  have hself : ∀ i, simple ≠ simple ++ toString (i + 2) := fun i h =>
    Nat.repr_ne_empty (String.append_eq_left_iff.mp h.symm)
  intro i j h
  match i, j with
  | 0, 0 => rfl
  | 0, j + 1 => exact absurd h (hself j)
  | i + 1, 0 => exact absurd h.symm (hself i)
  | i + 1, j + 1 =>
    have hnumbers : i + 2 = j + 2 := Text.toString_inj.mp ((String.append_right_inj simple).mp h)
    omega

theorem candidates_eq (simple : String) (n : Nat) :
    candidates simple n = (List.range (n + 1)).map (candidate simple) := by
  rw [candidates, List.range_succ_eq_map, List.map_cons, List.map_map]
  rfl

/-- Among one more candidates than names are taken, one is free. -/
theorem exists_candidate_notMem (simple : String) (taken : List String) :
    ∃ name ∈ candidates simple taken.length, name ∉ taken := by
  by_contra hall
  push Not at hall
  have hnodup : (candidates simple taken.length).Nodup := by
    rw [candidates_eq]
    exact List.nodup_range.map (candidate_injective simple)
  have hle := hnodup.length_le_of_subset hall
  rw [candidates_eq, List.length_map, List.length_range] at hle
  omega

/-- The search ends with the first candidate that is not taken. -/
theorem freeName_eq (simple : String) (taken : List String) :
    ∃ k ≤ taken.length, freeName simple taken = candidate simple k ∧
      candidate simple k ∉ taken ∧ ∀ j < k, candidate simple j ∈ taken := by
  obtain ⟨name, hname, hfree⟩ := exists_candidate_notMem simple taken
  have hsome : ((candidates simple taken.length).find? (!taken.contains ·)).isSome = true :=
    List.find?_isSome.mpr ⟨name, hname, by simpa using hfree⟩
  obtain ⟨found, hfound⟩ := Option.isSome_iff_exists.mp hsome
  have hfreeName : freeName simple taken = found := by rw [freeName, hfound, Option.getD_some]
  rw [candidates_eq, List.find?_eq_some_iff_getElem] at hfound
  obtain ⟨hnot, k, hk, hget, hbefore⟩ := hfound
  simp only [List.length_map, List.length_range, List.getElem_map, List.getElem_range]
    at hk hget hbefore
  subst hget
  exact ⟨k, by omega, hfreeName, by simpa using hnot, fun j hj => by simpa using hbefore j hj⟩

theorem freeName_notMem (simple : String) (taken : List String) :
    freeName simple taken ∉ taken := by
  obtain ⟨k, -, heq, hfree, -⟩ := freeName_eq simple taken
  rwa [heq]

/-! ## §2 Names given -/

namespace Aliases

variable {reserved taken : List String} {own name : TypeName} {aliases : Aliases}

/-- What giving names keeps, for a file with a serializer of its own: the
names reserved in advance and those given are taken, only the own serializer
has a reserved one, and no two serializers have the same. -/
structure Assigned (reserved : List String) (own : TypeName) (taken : List String)
    (aliases : Aliases) : Prop where
  reserved_taken : reserved ⊆ taken
  own_simple : aliases.get? own = some own.simple
  given_taken : ∀ {name given}, aliases.get? name = some given → given ∈ taken
  not_reserved : ∀ {name given}, name ≠ own → aliases.get? name = some given → given ∉ reserved
  injective : ∀ {name other given},
    aliases.get? name = some given → aliases.get? other = some given → name = other

/-- At first only the file's own serializer has a name. -/
theorem assigned_own {surrogate : String} (own : TypeName) :
    Assigned [surrogate, own.simple] own [surrogate, own.simple]
      ((∅ : Aliases).insert own own.simple) := by
  have hget : ∀ {name given}, ((∅ : Aliases).insert own own.simple).get? name = some given →
      name = own ∧ given = own.simple := by
    intro name given h
    rw [Table.get?_insert, Table.get?_empty] at h
    split at h
    · next hname => exact ⟨hname, (Option.some.inj h).symm⟩
    · cases h
  refine ⟨fun _ h => h, by rw [Table.get?_insert, if_pos rfl], fun h => ?_,
    fun hne h => absurd (hget h).1 hne, fun h hother => (hget h).1.trans (hget hother).1.symm⟩
  rw [(hget h).2]
  simp

/-- A step: a serializer without a name gets a free one. -/
theorem Assigned.insert (h : Assigned reserved own taken aliases) {free : String}
    (hname : aliases.contains name = false) (hfree : free ∉ taken) :
    Assigned reserved own (taken ++ [free]) (aliases.insert name free) := by
  have hnone : aliases.get? name = none := by
    rwa [Table.contains, Option.isSome_eq_false_iff, Option.isNone_iff_eq_none] at hname
  have hown : own ≠ name := by
    rintro rfl
    rw [h.own_simple] at hnone
    cases hnone
  -- a name found afterwards is the new one, or one of those before and so taken
  have hget : ∀ {other given}, (aliases.insert name free).get? other = some given →
      other = name ∧ given = free ∨ aliases.get? other = some given ∧ given ≠ free := by
    intro other given hfound
    rw [Table.get?_insert] at hfound
    split at hfound
    · next heq => exact .inl ⟨heq, (Option.some.inj hfound).symm⟩
    · exact .inr ⟨hfound, fun heq => hfree (heq ▸ h.given_taken hfound)⟩
  refine ⟨fun _ hmem => List.mem_append_left _ (h.reserved_taken hmem), ?_, fun hfound => ?_,
    fun hne hfound => ?_, fun hfound hother => ?_⟩
  · rw [Table.get?_insert, if_neg hown, h.own_simple]
  · rcases hget hfound with ⟨-, rfl⟩ | ⟨hbefore, -⟩
    · exact List.mem_append_right _ (List.mem_singleton_self _)
    · exact List.mem_append_left _ (h.given_taken hbefore)
  · rcases hget hfound with ⟨-, rfl⟩ | ⟨hbefore, -⟩
    · exact fun hmem => hfree (h.reserved_taken hmem)
    · exact h.not_reserved hne hbefore
  · rcases hget hfound with ⟨rfl, rfl⟩ | ⟨hbefore, hne⟩ <;>
      rcases hget hother with ⟨rfl, hgiven⟩ | ⟨hbefore', hne'⟩
    · rfl
    · exact absurd rfl hne'
    · exact absurd hgiven hne
    · exact h.injective hbefore hbefore'

/-- A run: names are given to a list of serializers, and each of them has one
in the end. -/
theorem Assigned.addAll (h : Assigned reserved own taken aliases) (names : List TypeName) :
    (∃ taken', Assigned reserved own taken' (addAll taken aliases names)) ∧
      (∀ {name}, aliases.contains name = true →
        (Aliases.addAll taken aliases names).contains name = true) ∧
      ∀ name ∈ names, (Aliases.addAll taken aliases names).contains name = true := by
  induction names generalizing taken aliases with
  | nil => exact ⟨⟨taken, h⟩, fun hname => hname, fun _ hmem => nomatch hmem⟩
  | cons first rest ih =>
    rw [Aliases.addAll]
    split
    · next hhas =>
      obtain ⟨hassigned, hkept, hall⟩ := ih h
      refine ⟨hassigned, hkept, fun name hmem => ?_⟩
      rcases List.mem_cons.mp hmem with rfl | hmem
      · exact hkept hhas
      · exact hall name hmem
    · next hnot =>
      have hstep := h.insert (Bool.not_eq_true _ ▸ hnot) (freeName_notMem first.simple taken)
      obtain ⟨hassigned, hkept, hall⟩ := ih hstep
      have hinsert : ∀ {name}, name = first ∨ aliases.contains name = true →
          (aliases.insert first (freeName first.simple taken)).contains name = true := by
        intro name hname
        rw [Table.contains, Table.get?_insert]
        split
        · rfl
        · next hne => exact hname.resolve_left hne
      refine ⟨hassigned, fun hname => hkept (hinsert (.inr hname)), fun name hmem => ?_⟩
      rcases List.mem_cons.mp hmem with rfl | hmem
      · exact hkept (hinsert (.inl rfl))
      · exact hall name hmem

/-! ## §3 The aliases of a unit -/

theorem assigned_ofUnit (unit : SurrogateUnit) :
    ∃ taken, Assigned [unit.surrogate.name.simple, unit.serializer.name.simple]
      unit.serializer.name taken (ofUnit unit) :=
  ((assigned_own unit.serializer.name).addAll _).1

/-- Every serializer that a unit imports has a name in the unit's file. -/
theorem exists_get?_ofUnit {unit : SurrogateUnit} {serializer : Serializer}
    (h : serializer ∈ unit.serializer.imports) :
    ∃ given, (ofUnit unit).get? serializer.name = some given :=
  Option.isSome_iff_exists.mp
    (((assigned_own unit.serializer.name).addAll _).2.2 _ (List.mem_map_of_mem h))

end Aliases

end Surrogates.Source
