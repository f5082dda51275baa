/-
Surrogates.Proofs.Table.Insertions — what is left of pairs that are put one
after another.

The value of a key is that of the last pair with the key, or else the one from
before (`get?_foldl_put`), and the keys stand in the order in which they first
come up (`keys_foldl_put`). A list of distinct keys is told by these two views,
so pairs may be put together before they are put into a table
(`foldl_put_ofList`). Nothing is lost on the way exactly if their keys are
distinct: `ofList_eq_self_iff`, `length_ofList_eq_iff`.
-/
import Surrogates.Proofs.Distinct
import Surrogates.Table.Basic

namespace Surrogates

namespace Assoc

variable {κ : Type u} {α : Type v} [DecidableEq κ]

/-! ## §1 The two views -/

theorem get?_append (key : κ) (pairs more : List (κ × α)) :
    get? key (pairs ++ more) = (get? key pairs).or (get? key more) := by
  induction pairs with
  | nil => rfl
  | cons pair rest ih =>
    obtain ⟨k, a⟩ := pair
    rw [List.cons_append, get?_cons, get?_cons, ih]
    split <;> rfl

/-- The last pair of a key has its value. -/
theorem get?_foldl_put (key : κ) (pairs out : List (κ × α)) :
    get? key (pairs.foldl (fun table (k, a) => put k a table) out) =
      (get? key pairs.reverse).or (get? key out) := by
  induction pairs generalizing out with
  | nil => rfl
  | cons pair rest ih =>
    obtain ⟨k, a⟩ := pair
    have hlast : get? key [(k, a)] = if key = k then some a else none := by
      rw [get?_cons, get?_nil]
      simp only [eq_comm]
    rw [List.foldl_cons, ih, get?_put, List.reverse_cons, get?_append, hlast, Option.or_assoc]
    split <;> rfl

/-- Keys stand in the order in which they first come up. -/
theorem keys_foldl_put {pairs out : List (κ × α)} (h : (keys out).Nodup) :
    keys (pairs.foldl (fun table (k, a) => put k a table) out) =
      (keys out ++ keys pairs).eraseDups := by
  induction pairs generalizing out with
  | nil =>
    rw [List.foldl_nil, keys, keys, List.map_nil, List.append_nil]
    exact (eraseDups_of_nodup h).symm
  | cons pair rest ih =>
    obtain ⟨k, a⟩ := pair
    have hcons : keys ((k, a) :: rest) = k :: keys rest := rfl
    rw [List.foldl_cons, ih (nodup_keys_put k a h), keys_put, hcons]
    split
    · next hmem => exact (eraseDups_append_cons_of_mem hmem).symm
    · rw [List.append_assoc, List.singleton_append]

/-- A list of distinct keys is told by its keys and their values. -/
theorem eq_of_views {pairs others : List (κ × α)} (hnodup : (keys pairs).Nodup)
    (hkeys : keys pairs = keys others) (hget : ∀ key, get? key pairs = get? key others) :
    pairs = others := by
  induction pairs generalizing others with
  | nil => exact (List.map_eq_nil_iff.mp hkeys.symm).symm
  | cons pair rest ih =>
    obtain ⟨k, a⟩ := pair
    obtain ⟨⟨k', a'⟩, more, rfl⟩ := List.exists_cons_of_ne_nil (l := others) (by
      rintro rfl
      cases hkeys)
    obtain ⟨rfl, hrest⟩ : k = k' ∧ keys rest = keys more := List.cons.inj hkeys
    obtain ⟨hfresh, hdistinct⟩ := List.nodup_cons.mp hnodup
    have hfirst := hget k
    rw [get?_cons, get?_cons, if_pos rfl, if_pos rfl, Option.some.injEq] at hfirst
    rw [hfirst, ih hdistinct hrest fun key => ?_]
    by_cases hkey : k = key
    · -- the first key does not come up again on either side
      subst hkey
      rw [get?_eq_none_iff.mpr hfresh, get?_eq_none_iff.mpr (hrest ▸ hfresh)]
    · have hother := hget key
      rwa [get?_cons, get?_cons, if_neg hkey, if_neg hkey] at hother

/-! ## §2 Pairs put together -/

theorem keys_ofList (pairs : List (κ × α)) : keys (ofList pairs) = (keys pairs).eraseDups :=
  keys_foldl_put List.nodup_nil

theorem nodup_keys_ofList (pairs : List (κ × α)) : (keys (ofList pairs)).Nodup := by
  rw [keys_ofList]
  exact nodup_eraseDups _

theorem nodup_keys_foldl_put {out : List (κ × α)} (pairs : List (κ × α)) (h : (keys out).Nodup) :
    (keys (pairs.foldl (fun table (k, a) => put k a table) out)).Nodup := by
  rw [keys_foldl_put h]
  exact nodup_eraseDups _

theorem get?_ofList (key : κ) (pairs : List (κ × α)) :
    get? key (ofList pairs) = get? key pairs.reverse := by
  rw [ofList, get?_foldl_put, get?_nil, Option.or_none]

theorem mem_of_mem_ofList {pair : κ × α} {pairs : List (κ × α)} (h : pair ∈ ofList pairs) :
    pair ∈ pairs := by
  have hlast := get?_eq_some_of_mem (nodup_keys_ofList pairs) h
  rw [get?_ofList] at hlast
  exact List.mem_reverse.mp (mem_of_get?_eq_some hlast)

/-- A list of distinct keys may be read from either end. -/
theorem get?_reverse {pairs : List (κ × α)} (h : (keys pairs).Nodup) (key : κ) :
    get? key pairs.reverse = get? key pairs := by
  have hself : ofList pairs = pairs := foldl_put_eq_append h fun _ _ => List.not_mem_nil
  rw [← get?_ofList, hself]

/-- Pairs may be put together before they are put behind others. -/
theorem foldl_put_ofList (pairs : List (κ × α)) {out : List (κ × α)} (h : (keys out).Nodup) :
    (ofList pairs).foldl (fun table (k, a) => put k a table) out =
      pairs.foldl (fun table (k, a) => put k a table) out := by
  refine eq_of_views (nodup_keys_foldl_put _ h) ?_ fun key => ?_
  · rw [keys_foldl_put h, keys_foldl_put h, keys_ofList, eraseDups_append_eraseDups]
  · rw [get?_foldl_put, get?_foldl_put, get?_reverse (nodup_keys_ofList pairs), get?_ofList]

/-! ## §3 What is lost -/

theorem ofList_eq_self_iff {pairs : List (κ × α)} : ofList pairs = pairs ↔ (keys pairs).Nodup := by
  constructor
  · intro h
    exact h ▸ nodup_keys_ofList pairs
  · exact fun h => foldl_put_eq_append h fun _ _ => List.not_mem_nil

theorem length_ofList_eq_iff {pairs : List (κ × α)} :
    (ofList pairs).length = pairs.length ↔ (keys pairs).Nodup := by
  have hlength : ∀ pairs : List (κ × α), (keys pairs).length = pairs.length :=
    fun _ => List.length_map _
  rw [← hlength, ← hlength, keys_ofList]
  constructor
  · intro h
    exact (eraseDups_sublist (keys pairs)).eq_of_length h ▸ nodup_eraseDups _
  · intro h
    rw [eraseDups_of_nodup h]

end Assoc

end Surrogates
