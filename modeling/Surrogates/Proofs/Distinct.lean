/-
Surrogates.Proofs.Distinct — lists in which nothing is repeated.

`nodup_eraseDups` is about first occurrences, with which the library makes its
lists distinct; repetitions matter to what is gathered from a list exactly if
something is gathered from a repeated item (`flatMap_eraseDups_eq_iff`). The
other occurrences are the `repetitions`, which a list read from the front shows
one by one (`repetitions_concat`); there are none exactly if nothing is repeated
(`repetitions_eq_nil_iff`).
`mem_of_nodup_of_length` counts: numbers below a bound that are as many as the
bound are all of them. Where keys are distinct, a part of a list is found again
by its keys (`filter_contains_key_eq`).
-/
import Mathlib.Data.List.Basic
import Mathlib.Data.List.Flatten
import Mathlib.Data.List.Induction

namespace Surrogates

/-! ## §1 Parts of lists -/

/-- Lists of two parts each are the same, if the first has less in both, only if
both parts are. -/
theorem append_eq_append_iff_of_sublist {α : Type u} {a a' b b' : List α} (ha : a.Sublist a')
    (hb : b.Sublist b') : a ++ b = a' ++ b' ↔ a = a' ∧ b = b' := by
  constructor
  · intro h
    have hlength := congrArg List.length h
    rw [List.length_append, List.length_append] at hlength
    have hle := ha.length_le
    have hle' := hb.length_le
    exact ⟨ha.eq_of_length (by omega), hb.eq_of_length (by omega)⟩
  · rintro ⟨rfl, rfl⟩
    rfl

/-- Gathering less from each item gives the same only if it gives the same from
each. -/
theorem flatMap_eq_iff_of_sublist {α : Type u} {β : Type v} {f g : α → List β} {l : List α}
    (h : ∀ a ∈ l, (f a).Sublist (g a)) : l.flatMap f = l.flatMap g ↔ ∀ a ∈ l, f a = g a := by
  induction l with
  | nil => simp
  | cons a rest ih =>
    obtain ⟨ha, hrest⟩ := List.forall_mem_cons.mp h
    rw [List.flatMap_cons, List.flatMap_cons, List.forall_mem_cons, ← ih hrest]
    exact append_eq_append_iff_of_sublist ha (List.Sublist.flatMap_right rest hrest)

/-- Items may be left out exactly if nothing is gathered from them. -/
theorem flatMap_filter_eq_iff {α : Type u} {β : Type v} {f : α → List β} {p : α → Bool}
    {l : List α} :
    (l.filter p).flatMap f = l.flatMap f ↔ ∀ a ∈ l, p a = false → f a = [] := by
  induction l with
  | nil => simp
  | cons a rest ih =>
    have hrest : ((rest.filter p).flatMap f).Sublist (rest.flatMap f) :=
      List.filter_sublist.flatMap f
    rw [List.filter_cons, List.flatMap_cons, List.forall_mem_cons, ← ih]
    cases hp : p a with
    | true => simp
    | false =>
      have hempty := append_eq_append_iff_of_sublist (List.nil_sublist (f a)) hrest
      simpa [eq_comm] using hempty

/-- What is gathered from the items that a test keeps is gathered item by item. -/
theorem flatMap_filter_eq_flatMap {α : Type u} {β : Type v} (p : α → Bool) (f : α → List β)
    (l : List α) : (l.filter p).flatMap f = l.flatMap fun a => ([a].filter p).flatMap f := by
  induction l with
  | nil => rfl
  | cons a rest ih =>
    rw [List.filter_cons, List.flatMap_cons, ← ih, List.filter_cons]
    cases p a <;> simp

/-! ## §2 First occurrences -/

/-- Nothing is repeated among first occurrences. -/
theorem nodup_eraseDups {α : Type u} [BEq α] [LawfulBEq α] (l : List α) : l.eraseDups.Nodup := by
  match l with
  | [] => simp
  | a :: rest =>
    rw [List.eraseDups_cons, List.nodup_cons]
    have hshort := List.length_filter_le (fun b => !b == a) rest
    refine ⟨?_, nodup_eraseDups (rest.filter fun b => !b == a)⟩
    intro ha
    simpa using List.mem_eraseDups.mp ha
termination_by l.length
decreasing_by simp only [List.length_cons]; omega

theorem eraseDups_sublist {α : Type u} [BEq α] [LawfulBEq α] (l : List α) :
    l.eraseDups.Sublist l := by
  match l with
  | [] => simp
  | a :: rest =>
    have hshort := List.length_filter_le (fun b => !b == a) rest
    rw [List.eraseDups_cons]
    exact ((eraseDups_sublist (rest.filter fun b => !b == a)).trans List.filter_sublist).cons_cons a
termination_by l.length
decreasing_by simp only [List.length_cons]; omega

/-- Where nothing is repeated, all are first occurrences. -/
theorem eraseDups_of_nodup {α : Type u} [BEq α] [LawfulBEq α] {l : List α} (h : l.Nodup) :
    l.eraseDups = l := by
  have hle := h.length_le_of_subset fun a ha => List.mem_eraseDups.mpr ha
  exact (eraseDups_sublist l).eq_of_length_le hle

/-- What a test keeps of first occurrences are the first occurrences of what it
keeps. -/
theorem eraseDups_filter {α : Type u} [BEq α] [LawfulBEq α] (p : α → Bool) (l : List α) :
    (l.filter p).eraseDups = l.eraseDups.filter p := by
  match l with
  | [] => simp
  | a :: rest =>
    have hshort := List.length_filter_le (fun b => !b == a) rest
    have hothers := eraseDups_filter p (rest.filter fun b => !b == a)
    rw [List.eraseDups_cons, List.filter_cons, List.filter_cons, ← hothers, List.filter_filter]
    split
    · rw [List.eraseDups_cons, List.filter_filter]
      simp only [Bool.and_comm]
    · next hp =>
      -- the item itself fails the test, so that it need not be left out
      congr 1
      refine List.filter_congr fun b _ => ?_
      by_cases hb : b = a <;> simp [hb, hp]
termination_by l.length
decreasing_by simp only [List.length_cons]; omega

/-- What has come up already may be left out of what follows. -/
theorem eraseDups_append_cons_of_mem {α : Type u} [BEq α] [LawfulBEq α] {a : α} {l rest : List α}
    (h : a ∈ l) : (l ++ a :: rest).eraseDups = (l ++ rest).eraseDups := by
  have hremove : (a :: rest).removeAll l = rest.removeAll l := by
    simp [List.removeAll, h]
  rw [List.eraseDups_append, List.eraseDups_append, hremove]

/-- What follows may be made distinct before all of it is. -/
theorem eraseDups_append_eraseDups {α : Type u} [BEq α] [LawfulBEq α] (l rest : List α) :
    (l ++ rest.eraseDups).eraseDups = (l ++ rest).eraseDups := by
  have hremove : (rest.eraseDups.removeAll l).eraseDups = (rest.removeAll l).eraseDups := by
    rw [List.removeAll, ← eraseDups_filter, eraseDups_of_nodup (nodup_eraseDups _)]
    rfl
  rw [List.eraseDups_append, List.eraseDups_append, hremove]

/-- What is gathered from each item may be made distinct before all of it is. -/
theorem eraseDups_flatMap_eraseDups {α : Type u} {β : Type v} [BEq β] [LawfulBEq β]
    (f : α → List β) (l : List α) :
    (l.flatMap fun a => (f a).eraseDups).eraseDups = (l.flatMap f).eraseDups := by
  induction l with
  | nil => rfl
  | cons a rest ih =>
    have hremove : ∀ later : List β,
        later.removeAll (f a).eraseDups = later.filter (!(f a).elem ·) := by
      refine fun later => List.filter_congr fun b _ => ?_
      rw [Bool.not_inj_iff, Bool.eq_iff_iff, List.elem_iff, List.elem_iff, List.mem_eraseDups]
    rw [List.flatMap_cons, List.flatMap_cons, List.eraseDups_append, List.eraseDups_append,
      eraseDups_of_nodup (nodup_eraseDups _), hremove, eraseDups_filter, ih, ← eraseDups_filter]
    rfl

/-- Repetitions may be left out exactly if nothing is gathered from what is
repeated. -/
theorem flatMap_eraseDups_eq_iff {α : Type u} {β : Type v} [DecidableEq α] {f : α → List β}
    (l : List α) :
    l.eraseDups.flatMap f = l.flatMap f ↔ ∀ a, 2 ≤ l.count a → f a = [] := by
  match l with
  | [] => simp
  | a :: rest =>
    have hshort := List.length_filter_le (fun b => !b == a) rest
    have hothers := flatMap_eraseDups_eq_iff (f := f) (rest.filter fun b => !b == a)
    have hleft := flatMap_filter_eq_iff (f := f) (p := fun b => !b == a) (l := rest)
    have hcount : ∀ b, b ≠ a → (rest.filter fun b => !b == a).count b = (a :: rest).count b := by
      intro b hne
      rw [List.count_cons_of_ne hne.symm, List.count_filter (by simpa using hne)]
    rw [List.eraseDups_cons, List.flatMap_cons, List.flatMap_cons, List.append_cancel_left_eq]
    constructor
    · intro h b hb
      -- what is gathered from the others lies between the two sides
      have hfewer := (eraseDups_sublist (rest.filter fun b => !b == a)).flatMap f
      rw [h] at hfewer
      have hbetween : (rest.filter fun b => !b == a).flatMap f = rest.flatMap f :=
        (List.filter_sublist.flatMap f).eq_of_length_le hfewer.length_le
      by_cases hne : b = a
      · subst hne
        rw [List.count_cons_self] at hb
        exact hleft.mp hbetween b (List.count_pos_iff.mp (by omega)) (by simp)
      · exact hothers.mp (h.trans hbetween.symm) b (hcount b hne ▸ hb)
    · intro h
      rw [hothers.mpr, hleft.mpr]
      · intro b hb hsame
        obtain rfl : b = a := by simpa using hsame
        refine h b ?_
        rw [List.count_cons_self]
        exact Nat.succ_le_succ (List.count_pos_iff.mpr hb)
      · intro b hb
        have hmem := List.count_pos_iff.mp (by omega : 0 < (rest.filter fun b => !b == a).count b)
        have hne : b ≠ a := by simpa using (List.mem_filter.mp hmem).2
        exact h b (hcount b hne ▸ hb)
termination_by l.length
decreasing_by simp only [List.length_cons]; omega

/-- The items of a list that stand behind an equal one, in their order. -/
def repetitions {α : Type u} [DecidableEq α] (l : List α) : List α :=
  l.zipIdx.filterMap fun (a, i) => if a ∈ l.take i then some a else none

theorem repetitions_concat {α : Type u} [DecidableEq α] (l : List α) (a : α) :
    repetitions (l ++ [a]) = repetitions l ++ if a ∈ l then [a] else [] := by
  -- what stands before an item of the list does not reach the new item
  have hbefore : l.zipIdx.filterMap (fun (b, i) =>
      if b ∈ (l ++ [a]).take i then some b else none) = repetitions l := by
    refine List.filterMap_congr fun (b, i) hb => ?_
    have hi : i < l.length := by simpa using List.snd_lt_of_mem_zipIdx hb
    simp only [List.take_append_of_le_length (Nat.le_of_lt hi)]
  rw [repetitions, List.zipIdx_append, List.filterMap_append, hbefore]
  by_cases h : a ∈ l <;> simp [h]

theorem repetitions_eq_nil_iff {α : Type u} [DecidableEq α] {l : List α} :
    repetitions l = [] ↔ l.Nodup := by
  induction l using List.reverseRecOn with
  | nil => simp [repetitions]
  | append_singleton l a ih =>
    have hlast : (if a ∈ l then [a] else []) = [] ↔ a ∉ l := by
      by_cases h : a ∈ l <;> simp [h]
    rw [repetitions_concat, List.append_eq_nil_iff, ih, hlast]
    simp [List.nodup_append, List.forall_mem_ne']

/-! ## §3 Counting -/

/-- At least `n` distinct numbers below `n` are all of them. -/
theorem mem_of_nodup_of_length {n i : Nat} {l : List Nat} (hnodup : l.Nodup)
    (hlt : ∀ j ∈ l, j < n) (hlength : n ≤ l.length) (hi : i < n) : i ∈ l := by
  refine Classical.byContradiction fun hnot => ?_
  have hcons : (i :: l).Nodup := List.nodup_cons.mpr ⟨hnot, hnodup⟩
  have hsub : i :: l ⊆ List.range n := by
    intro j hj
    rcases List.mem_cons.mp hj with rfl | hj
    · exact List.mem_range.mpr hi
    · exact List.mem_range.mpr (hlt j hj)
  have hle := hcons.length_le_of_subset hsub
  simp only [List.length_cons, List.length_range] at hle
  omega

theorem count_filter_eq_ite {α : Type u} [DecidableEq α] (p : α → Bool) (a : α) (l : List α) :
    (l.filter p).count a = if p a then l.count a else 0 := by
  by_cases hp : p a = true
  · rw [List.count_filter hp, if_pos hp]
  · rw [List.count_eq_zero.mpr fun hmem => hp (List.mem_filter.mp hmem).2, if_neg hp]

/-- Where keys are distinct, a part of a list is what has the keys of the part. -/
theorem filter_contains_key_eq {α : Type u} {κ : Type v} [DecidableEq κ] {key : α → κ}
    {part l : List α} (hnodup : (l.map key).Nodup) (hpart : part.Sublist l) :
    l.filter (fun a => (part.map key).contains (key a)) = part := by
  have hself : part.filter (fun a => (part.map key).contains (key a)) = part := by
    refine List.filter_eq_self.mpr fun a ha => ?_
    rw [List.contains_eq_mem, decide_eq_true_iff]
    exact List.mem_map_of_mem ha
  have hsub := hpart.filter fun a => (part.map key).contains (key a)
  rw [hself] at hsub
  -- the keys of what is found are distinct, and all of them are keys of the part
  have hkeys := hnodup.sublist
    ((List.filter_sublist (p := fun a => (part.map key).contains (key a))).map key)
  have hle := hkeys.length_le_of_subset fun k hk => by
    obtain ⟨a, ha, rfl⟩ := List.mem_map.mp hk
    simpa only [List.contains_eq_mem, decide_eq_true_iff] using (List.mem_filter.mp ha).2
  rw [List.length_map, List.length_map] at hle
  exact (hsub.eq_of_length_le hle).symm

end Surrogates
