/-
Surrogates.Table.Assoc — association lists in order of first insertion.

`put` replaces the value of a key it finds and otherwise adds the pair at
the end, so a key keeps the place of its first insertion and has the value
of its last (`get?_put_self`, `get?_put_of_ne`, `keys_put`). Lists without
repeated keys stay so (`nodup_keys_put`, `nodup_keys_erase`).
-/

namespace Surrogates.Assoc

variable {κ : Type u} {α : Type v} [DecidableEq κ]

/-! ## §1 Operations -/

/-- The keys in order. -/
def keys (pairs : List (κ × α)) : List κ :=
  pairs.map Prod.fst

/-- The value of the first pair with the key. -/
def get? (key : κ) : List (κ × α) → Option α
  | [] => none
  | (k, a) :: rest => if k = key then some a else get? key rest

/-- Gives a key a value: in its place if the list has the key, else at the end. -/
def put (key : κ) (value : α) : List (κ × α) → List (κ × α)
  | [] => [(key, value)]
  | (k, a) :: rest => if k = key then (k, value) :: rest else (k, a) :: put key value rest

/-- The list without the first pair of the key. -/
def erase (key : κ) : List (κ × α) → List (κ × α)
  | [] => []
  | (k, a) :: rest => if k = key then rest else (k, a) :: erase key rest

/-- The list built by putting the pairs one after another. -/
def ofList (pairs : List (κ × α)) : List (κ × α) :=
  pairs.foldl (fun table (k, a) => put k a table) []

/-! ## §2 Look-up -/

@[simp] theorem get?_nil (key : κ) : get? key ([] : List (κ × α)) = none := rfl

theorem get?_cons (key k : κ) (a : α) (rest : List (κ × α)) :
    get? key ((k, a) :: rest) = if k = key then some a else get? key rest := rfl

theorem get?_eq_none_iff {key : κ} {pairs : List (κ × α)} :
    get? key pairs = none ↔ key ∉ keys pairs := by
  induction pairs with
  | nil => simp [keys]
  | cons pair rest ih =>
    obtain ⟨k, a⟩ := pair
    by_cases h : k = key
    · simp [get?_cons, keys, h]
    · simpa [get?_cons, keys, h, Ne.symm h, eq_comm] using ih

theorem get?_eq_some_of_mem {key : κ} {value : α} {pairs : List (κ × α)} (h : (keys pairs).Nodup)
    (hmem : (key, value) ∈ pairs) : get? key pairs = some value := by
  induction pairs with
  | nil => cases hmem
  | cons pair rest ih =>
    obtain ⟨k, a⟩ := pair
    obtain ⟨hfresh, hrest⟩ := List.nodup_cons.mp h
    rcases List.mem_cons.mp hmem with heq | hmem
    · cases heq
      rw [get?_cons, if_pos rfl]
    · have hkey : key ∈ keys rest := List.mem_map_of_mem hmem
      have hne : k ≠ key := fun heq => hfresh (heq ▸ hkey)
      rw [get?_cons, if_neg hne]
      exact ih hrest hmem

theorem mem_of_get?_eq_some {key : κ} {value : α} {pairs : List (κ × α)}
    (h : get? key pairs = some value) : (key, value) ∈ pairs := by
  induction pairs with
  | nil => cases h
  | cons pair rest ih =>
    obtain ⟨k, a⟩ := pair
    rw [get?_cons] at h
    split at h
    · next heq =>
      cases h
      exact heq ▸ List.mem_cons_self
    · exact List.mem_cons_of_mem _ (ih h)

theorem get?_put_self (key : κ) (value : α) (pairs : List (κ × α)) :
    get? key (put key value pairs) = some value := by
  induction pairs with
  | nil => simp [put, get?_cons]
  | cons pair rest ih =>
    obtain ⟨k, a⟩ := pair
    by_cases h : k = key <;> simp [put, get?_cons, h, ih]

theorem get?_put_of_ne {key other : κ} (value : α) (pairs : List (κ × α)) (h : other ≠ key) :
    get? other (put key value pairs) = get? other pairs := by
  induction pairs with
  | nil => simp [put, get?_cons, Ne.symm h]
  | cons pair rest ih =>
    obtain ⟨k, a⟩ := pair
    by_cases hk : k = key
    · subst hk; simp [put, get?_cons, Ne.symm h]
    · simp [put, get?_cons, hk, ih]

theorem get?_put (key other : κ) (value : α) (pairs : List (κ × α)) :
    get? other (put key value pairs) = if other = key then some value else get? other pairs := by
  by_cases h : other = key
  · subst h; simp [get?_put_self]
  · simp [h, get?_put_of_ne]

theorem mem_put {key : κ} {value : α} {pairs : List (κ × α)} {pair : κ × α}
    (h : pair ∈ put key value pairs) : pair = (key, value) ∨ pair ∈ pairs := by
  induction pairs with
  | nil => exact .inl (List.mem_singleton.mp h)
  | cons first rest ih =>
    rw [put] at h
    split at h
    · next heq =>
      rcases List.mem_cons.mp h with rfl | hrest
      · exact .inl (by rw [heq])
      · exact .inr (List.mem_cons_of_mem _ hrest)
    · rcases List.mem_cons.mp h with rfl | hrest
      · exact .inr List.mem_cons_self
      · exact (ih hrest).imp_right (List.mem_cons_of_mem _)

theorem mem_of_mem_erase {key : κ} {pairs : List (κ × α)} {pair : κ × α}
    (h : pair ∈ erase key pairs) : pair ∈ pairs := by
  induction pairs with
  | nil => cases h
  | cons first rest ih =>
    rw [erase] at h
    split at h
    · exact List.mem_cons_of_mem _ h
    · rcases List.mem_cons.mp h with rfl | hrest
      · exact List.mem_cons_self
      · exact List.mem_cons_of_mem _ (ih hrest)

theorem get?_erase_of_ne {key other : κ} (pairs : List (κ × α)) (h : other ≠ key) :
    get? other (erase key pairs) = get? other pairs := by
  induction pairs with
  | nil => rfl
  | cons pair rest ih =>
    obtain ⟨k, a⟩ := pair
    by_cases hk : k = key
    · subst hk
      rw [erase, if_pos rfl, get?_cons, if_neg (Ne.symm h)]
    · rw [erase, if_neg hk, get?_cons, get?_cons, ih]

theorem erase_of_notMem {key : κ} {pairs : List (κ × α)} (h : key ∉ keys pairs) :
    erase key pairs = pairs := by
  induction pairs with
  | nil => rfl
  | cons pair rest ih =>
    obtain ⟨hne, hrest⟩ := not_or.mp (mt List.mem_cons.mpr h)
    rw [erase, if_neg (Ne.symm hne), ih hrest]

theorem erase_comm (key other : κ) (pairs : List (κ × α)) :
    erase key (erase other pairs) = erase other (erase key pairs) := by
  induction pairs with
  | nil => rfl
  | cons pair rest ih =>
    obtain ⟨k, a⟩ := pair
    by_cases hkey : k = key
    · subst hkey
      by_cases hother : k = other
      · rw [hother]
      · rw [erase, if_neg hother, erase, if_pos rfl, erase, if_pos rfl]
    · by_cases hother : k = other
      · rw [erase, if_pos hother, erase, if_neg hkey, erase, if_pos hother]
      · rw [erase, if_neg hother, erase, if_neg hkey, erase, if_neg hkey, erase, if_neg hother, ih]

theorem put_of_notMem {key : κ} {pairs : List (κ × α)} (value : α) (h : key ∉ keys pairs) :
    put key value pairs = pairs ++ [(key, value)] := by
  induction pairs with
  | nil => rfl
  | cons pair rest ih =>
    obtain ⟨hne, hrest⟩ := not_or.mp (mt List.mem_cons.mpr h)
    rw [put, if_neg (Ne.symm hne), ih hrest, List.cons_append]

/-! ## §3 Keys -/

theorem keys_put (key : κ) (value : α) (pairs : List (κ × α)) :
    keys (put key value pairs) = if key ∈ keys pairs then keys pairs else keys pairs ++ [key] := by
  induction pairs with
  | nil => simp [put, keys]
  | cons pair rest ih =>
    obtain ⟨k, a⟩ := pair
    by_cases hk : k = key
    · simp [put, keys, hk]
    · simp only [keys] at ih
      simp only [put, hk, if_false, keys, List.map_cons, List.mem_cons, Ne.symm hk, false_or, ih]
      by_cases hm : key ∈ rest.map Prod.fst <;> simp [hm]

theorem nodup_keys_put {pairs : List (κ × α)} (key : κ) (value : α) (h : (keys pairs).Nodup) :
    (keys (put key value pairs)).Nodup := by
  rw [keys_put]
  split
  · exact h
  · rename_i hm
    refine List.nodup_append.2 ⟨h, by simp, ?_⟩
    intro a ha b hb
    simp only [List.mem_singleton] at hb
    subst hb
    exact fun heq => hm (heq ▸ ha)

theorem keys_erase_sublist (key : κ) (pairs : List (κ × α)) :
    (keys (erase key pairs)).Sublist (keys pairs) := by
  induction pairs with
  | nil => simp [erase]
  | cons pair rest ih =>
    obtain ⟨k, a⟩ := pair
    by_cases h : k = key
    · simp [erase, keys, h]
    · simpa [erase, keys, h] using ih

theorem nodup_keys_erase {pairs : List (κ × α)} (key : κ) (h : (keys pairs).Nodup) :
    (keys (erase key pairs)).Nodup :=
  h.sublist (keys_erase_sublist key pairs)

/-- A key that is not repeated is gone once it is erased. -/
theorem get?_erase_self {key : κ} {pairs : List (κ × α)} (h : (keys pairs).Nodup) :
    get? key (erase key pairs) = none := by
  induction pairs with
  | nil => rfl
  | cons pair rest ih =>
    obtain ⟨k, a⟩ := pair
    obtain ⟨hfresh, hrest⟩ := List.nodup_cons.mp h
    by_cases hk : k = key
    · subst hk
      rw [erase, if_pos rfl]
      exact get?_eq_none_iff.mpr hfresh
    · rw [erase, if_neg hk, get?_cons, if_neg hk]
      exact ih hrest

/-- Putting pairs of new and distinct keys adds them at the end. -/
theorem foldl_put_eq_append {pairs out : List (κ × α)} (hpairs : (keys pairs).Nodup)
    (hout : ∀ key ∈ keys pairs, key ∉ keys out) :
    pairs.foldl (fun table (k, a) => put k a table) out = out ++ pairs := by
  induction pairs generalizing out with
  | nil => simp
  | cons pair rest ih =>
    obtain ⟨k, a⟩ := pair
    obtain ⟨hfresh, hrest⟩ := List.nodup_cons.mp hpairs
    have hput : put k a out = out ++ [(k, a)] := put_of_notMem a (hout k List.mem_cons_self)
    show rest.foldl _ (put k a out) = _
    rw [hput, ih hrest, List.append_assoc, List.singleton_append]
    intro key hkey hmem
    rw [keys, List.map_append, List.mem_append] at hmem
    rcases hmem with hold | hnew
    · exact hout key (List.mem_cons_of_mem _ hkey) hold
    · exact hfresh (List.mem_singleton.mp hnew ▸ hkey)

end Surrogates.Assoc
