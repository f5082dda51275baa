/-
Surrogates.Table.Basic — tables that remember the order of first insertion.

A `Table` is an association list whose keys are distinct; the proof is part
of the value. It is seen through `get?` and `keys`, which agree on what is
there (`get?_eq_none_iff`); `get?_insert` says what an insertion does.
-/
import Surrogates.Table.Assoc

namespace Surrogates

/-! ## §1 The type -/

/-- Pairs of distinct keys and their values, in order of first insertion. -/
structure Table (κ : Type u) (α : Type v) where
  entries : List (κ × α)
  nodup : (Assoc.keys entries).Nodup

namespace Table

variable {κ : Type u} {α : Type v} [DecidableEq κ]

instance : EmptyCollection (Table κ α) := ⟨⟨[], List.nodup_nil⟩⟩

instance : Inhabited (Table κ α) := ⟨∅⟩

/-! ## §2 Operations -/

/-- The keys in order of first insertion. -/
def keys (table : Table κ α) : List κ :=
  Assoc.keys table.entries

/-- The values in order of their keys' first insertion. -/
def values (table : Table κ α) : List α :=
  table.entries.map Prod.snd

/-- The number of keys. -/
def size (table : Table κ α) : Nat :=
  table.entries.length

/-- Whether the table has no keys. -/
def isEmpty (table : Table κ α) : Bool :=
  table.entries.isEmpty

/-- The value of a key. -/
def get? (table : Table κ α) (key : κ) : Option α :=
  Assoc.get? key table.entries

/-- Whether the table has the key. -/
def contains (table : Table κ α) (key : κ) : Bool :=
  (table.get? key).isSome

/-- Gives a key a value; a key the table has keeps its place. -/
def insert (table : Table κ α) (key : κ) (value : α) : Table κ α :=
  ⟨Assoc.put key value table.entries, Assoc.nodup_keys_put key value table.nodup⟩

/-- Inserts pairs one after another. -/
def insertAll (table : Table κ α) (pairs : List (κ × α)) : Table κ α :=
  pairs.foldl (fun table (key, value) => table.insert key value) table

/-! ## §3 Views -/

theorem get?_empty (key : κ) : (∅ : Table κ α).get? key = none := rfl

theorem get?_insert (table : Table κ α) (key other : κ) (value : α) :
    (table.insert key value).get? other =
      if other = key then some value else table.get? other :=
  Assoc.get?_put key other value table.entries

theorem get?_eq_none_iff {table : Table κ α} {key : κ} :
    table.get? key = none ↔ key ∉ table.keys :=
  Assoc.get?_eq_none_iff

theorem contains_iff_mem_keys {table : Table κ α} {key : κ} :
    table.contains key = true ↔ key ∈ table.keys := by
  rw [contains, ← Decidable.not_iff_not, ← get?_eq_none_iff]
  cases table.get? key <;> simp

theorem insertAll_append (table : Table κ α) (pairs more : List (κ × α)) :
    table.insertAll (pairs ++ more) = (table.insertAll pairs).insertAll more :=
  List.foldl_append

/-- A value found after insertions was there before or is of an inserted pair. -/
theorem get?_insertAll_eq_some {table : Table κ α} {pairs : List (κ × α)} {key : κ} {value : α}
    (h : (table.insertAll pairs).get? key = some value) :
    table.get? key = some value ∨ (key, value) ∈ pairs := by
  induction pairs generalizing table with
  | nil => exact .inl h
  | cons pair rest ih =>
    rcases ih h with hfirst | hrest
    · rw [get?_insert] at hfirst
      split at hfirst
      · next heq =>
        obtain rfl := Option.some.inj hfirst
        exact .inr (heq ▸ List.mem_cons_self)
      · exact .inl hfirst
    · exact .inr (List.mem_cons_of_mem _ hrest)

theorem contains_insertAll {table : Table κ α} {pairs : List (κ × α)} {key : κ} :
    (table.insertAll pairs).contains key = true ↔
      table.contains key = true ∨ key ∈ Assoc.keys pairs := by
  induction pairs generalizing table with
  | nil => simp [insertAll, Assoc.keys]
  | cons pair rest ih =>
    have hinsert : (table.insert pair.1 pair.2).contains key = true ↔
        key = pair.1 ∨ table.contains key = true := by
      unfold contains
      rw [get?_insert]
      by_cases h : key = pair.1 <;> simp [h]
    have hkeys : key ∈ Assoc.keys (pair :: rest) ↔ key = pair.1 ∨ key ∈ Assoc.keys rest :=
      List.mem_cons
    have hstep : (table.insertAll (pair :: rest)).contains key = true ↔
        (table.insert pair.1 pair.2).contains key = true ∨ key ∈ Assoc.keys rest := ih
    rw [hstep, hinsert, hkeys, or_assoc]
    exact or_left_comm

end Table

end Surrogates
