/-
Surrogates.Proofs.Generation.LeastOrder — the order as the least of all orders.

An order that has every index behind its providers cannot differ from this one
for the first time at a smaller index, since that index would be free and come
next. So where there are no cycles this one is the least of those orders:
`isLeast_order`. An index stands before one of its providers only if
following providers from it comes to a cycle (`circular_of_idxOf_lt`). All of
this holds whatever entries list and need: `order_of_requests`.
-/
import Mathlib.Data.List.Lex
import Surrogates.Generation.Pass
import Surrogates.Proofs.Generation.Precedence

namespace Surrogates

namespace Schedule

variable {n : Nat} {providers : Nat → List Nat}

/-! ## §1 The least order -/

/-- Whether every index of a list stands behind all its providers. -/
def Obeys (providers : Nat → List Nat) (order : List Nat) : Prop :=
  ∀ earlier i later, order = earlier ++ i :: later → ∀ j ∈ providers i, j ∈ earlier

/-- An order that obeys is not less than the one that is made: where both differ
for the first time, its index is free. -/
theorem not_lt_order {other : List Nat} (hperm : other.Perm (List.range n))
    (hobeys : Obeys providers other) : ¬other < order n providers := by
  intro hlt
  have hlength : other.length = (order n providers).length :=
    (hperm.trans (order_perm n providers).symm).length_eq
  rcases List.lt_iff_exists.mp hlt with ⟨-, hshort⟩ | ⟨k, hk, hk', hsame, hless⟩
  · omega
  · have hearlier : other.take k = (order n providers).take k := by
      refine List.ext_getElem (by simp [hlength]) fun j hj hj' => ?_
      rw [List.getElem_take, List.getElem_take]
      exact hsame j (by simp at hj; omega)
    have hother : other = other.take k ++ other[k] :: other.drop (k + 1) := by
      rw [← List.drop_eq_getElem_cons hk, List.take_append_drop]
    have hmade : order n providers =
        other.take k ++ (order n providers)[k] :: (order n providers).drop (k + 1) := by
      rw [hearlier, ← List.drop_eq_getElem_cons hk', List.take_append_drop]
    have hnodup : other.Nodup := hperm.nodup_iff.mpr List.nodup_range
    have hfree : other[k] ∈ Free n providers (other.take k) := by
      refine ⟨⟨List.mem_range.mp (hperm.mem_iff.mp (List.getElem_mem hk)), ?_⟩,
        hobeys _ _ _ hother⟩
      rw [hother] at hnodup
      exact fun hmem => (List.nodup_append.mp hnodup).2.2 _ hmem _ List.mem_cons_self rfl
    rcases isNext_of_next? (next?_of_order hmade) with hleast | ⟨hempty, -⟩
    · exact absurd (hleast.2 hfree) (Nat.not_le_of_lt hless)
    · exact absurd (hempty ▸ hfree) (Set.notMem_empty _)

/-- Where there are no cycles, the order is the least of those that obey. -/
theorem isLeast_order (hlt : ∀ i < n, ∀ j ∈ providers i, j < n) (hacyclic : Acyclic providers) :
    IsLeast { other | other.Perm (List.range n) ∧ Obeys providers other } (order n providers) := by
  refine ⟨⟨order_perm n providers, fun earlier i later hsplit j hj => ?_⟩, ?_⟩
  · exact mem_earlier_of_acyclic hlt hacyclic hsplit hj
  · rintro other ⟨hperm, hobeys⟩
    exact not_lt.mp (not_lt_order hperm hobeys)

/-! ## §2 Places -/

/-- What stands before an index has the smaller place. -/
theorem idxOf_lt_idxOf_iff {l earlier later : List Nat} {i j : Nat}
    (hsplit : l = earlier ++ i :: later) (hnot : i ∉ earlier) :
    l.idxOf j < l.idxOf i ↔ j ∈ earlier := by
  have hi : l.idxOf i = earlier.length := by
    rw [hsplit, List.idxOf_append_of_notMem hnot, List.idxOf_cons_self, Nat.add_zero]
  rw [hi]
  by_cases hj : j ∈ earlier
  · rw [hsplit, List.idxOf_append_of_mem hj]
    exact iff_of_true (List.idxOf_lt_length_iff.mpr hj) hj
  · rw [hsplit, List.idxOf_append_of_notMem hj]
    exact iff_of_false (by omega) hj

theorem exists_split_order {i : Nat} (hi : i < n) : ∃ earlier later,
    order n providers = earlier ++ i :: later ∧ i ∉ earlier := by
  have hmem := (order_perm n providers).mem_iff.mpr (List.mem_range.mpr hi)
  obtain ⟨earlier, later, hsplit⟩ := List.append_of_mem hmem
  exact ⟨earlier, later, hsplit, (next?_eq_some (next?_of_order hsplit)).2⟩

theorem lt_of_idxOf_lt {i j : Nat}
    (h : (order n providers).idxOf i < (order n providers).idxOf j) : i < n := by
  have hlength := List.idxOf_le_length (a := j) (l := order n providers)
  have hmem := List.idxOf_lt_length_iff.mp (Nat.lt_of_lt_of_le h hlength)
  exact List.mem_range.mp ((order_perm n providers).mem_iff.mp hmem)

/-- An index stands before a provider only if a cycle can be reached from it. -/
theorem circular_of_idxOf_lt (hlt : ∀ i < n, ∀ j ∈ providers i, j < n) {i j : Nat}
    (hj : j ∈ providers i)
    (h : (order n providers).idxOf i < (order n providers).idxOf j) : Circular providers i := by
  obtain ⟨earlier, later, hsplit, hnot⟩ := exists_split_order (lt_of_idxOf_lt h)
  refine (follows_order hlt earlier i later hsplit).resolve_left fun hbefore => ?_
  exact Nat.lt_asymm h ((idxOf_lt_idxOf_iff hsplit hnot).mpr (hbefore j hj))

/-! ## §3 Requests -/

/-- What the order of an entry goes by: the types that it lists, and those that
it needs. -/
structure Request where
  targets : List TypeName
  needs : List TypeName

/-- The other requests that list a type that a request needs. -/
def providersOf (requests : List Request) (i : Nat) : List Nat :=
  match requests[i]? with
  | none => []
  | some request =>
    (List.range requests.length).filter fun j =>
      j != i && match requests[j]? with
        | some other => other.targets.any request.needs.contains
        | none => false

theorem lt_of_mem_providersOf {requests : List Request} {i j : Nat}
    (h : j ∈ providersOf requests i) : j < requests.length := by
  unfold providersOf at h
  split at h
  · cases h
  · exact List.mem_range.mp (List.mem_filter.mp h).1

end Schedule

/-- What a ready entry lists and what it needs. -/
def Generator.request (generator : Generator) (produced : List TypeName) (ready : Ready) :
    Schedule.Request :=
  ⟨ready.entry.targets, generator.needs produced ready⟩

/-- The providers of a ready entry are those of its request. -/
theorem Generator.providers_eq (generator : Generator) (produced : List TypeName)
    (ready : List Ready) : generator.providers produced ready =
      Schedule.providersOf (ready.map (generator.request produced)) := by
  funext i
  unfold providers Schedule.providersOf
  rw [List.getElem?_map, List.length_map]
  cases ready[i]? with
  | none => rfl
  | some needing =>
    refine List.filter_congr fun j _ => ?_
    rw [List.getElem?_map]
    cases ready[j]? <;> rfl

namespace Schedule

/-- **The order of entries.** Whatever entries list and need, all of them are
placed, each once, and then there is nothing more to place. Each index is the
least that is free when it is placed, or, where none is free, the least that is
left. Where there are no cycles, this is the least order with every entry behind
its providers, and an entry stands before a provider only if following providers
from it comes to a cycle. Ready entries are processed in the order of what they
list and need. -/
theorem order_of_requests (requests : List Request) :
    let n := requests.length
    let providers := providersOf requests
    let schedule := order n providers
    (∀ fuel, n ≤ fuel → extend n providers fuel [] = schedule) ∧
    schedule.Perm (List.range n) ∧
    (∀ earlier i later, schedule = earlier ++ i :: later → IsNext n providers earlier i) ∧
    (Acyclic providers →
      IsLeast { other | other.Perm (List.range n) ∧ Obeys providers other } schedule) ∧
    (∀ i j, j ∈ providers i → schedule.idxOf i < schedule.idxOf j → Circular providers i) ∧
    ∀ (generator : Generator) (produced : List TypeName) (ready : List Ready),
      generator.scheduled produced ready =
        (order ready.length
          (providersOf (ready.map (generator.request produced)))).filterMap (ready[·]?) := by
  intro n providers schedule
  have hlt : ∀ i < n, ∀ j ∈ providers i, j < n := fun _ _ _ hj => lt_of_mem_providersOf hj
  refine ⟨fun fuel hfuel => extend_of_le hfuel, order_perm n providers, ?_, ?_, ?_, ?_⟩
  · exact fun earlier i later hsplit => isNext_of_next? (next?_of_order hsplit)
  · exact isLeast_order hlt
  · exact fun i j => circular_of_idxOf_lt hlt
  · intro generator produced ready
    rw [← generator.providers_eq, Generator.scheduled]

/-- People need jobs, which are listed last; offices need nothing. -/
def chainRequests : List Request :=
  [⟨[⟨"Person"⟩], [⟨"Job"⟩]⟩, ⟨[⟨"Office"⟩], []⟩, ⟨[⟨"Job"⟩], []⟩]

/-- Offices come first and people last, and no other order that has people
behind jobs is less. Where two requests need each other, the first comes first,
before its provider. -/
theorem order_of_chain :
    (3 ≤ 5 ∧ extend 3 (providersOf chainRequests) 5 [] = [1, 2, 0]) ∧
    IsNext 3 (providersOf chainRequests) [1] 2 ∧
    (Acyclic (providersOf chainRequests) ∧
      IsLeast { other | other.Perm [0, 1, 2] ∧ Obeys (providersOf chainRequests) other }
        [1, 2, 0]) ∧
    (let circle : List Request := [⟨[⟨"A"⟩], [⟨"B"⟩]⟩, ⟨[⟨"B"⟩], [⟨"A"⟩]⟩]
    order 2 (providersOf circle) = [0, 1] ∧ 1 ∈ providersOf circle 0 ∧
      Circular (providersOf circle) 0) := by
  have hacyclic : Acyclic (providersOf chainRequests) := by
    have hless : ∀ i j, Awaits (providersOf chainRequests) i j → i < j := by
      intro i j h
      match i with
      | 0 =>
        obtain rfl : j = 2 := List.mem_singleton.mp h
        decide
      | 1 => cases h
      | 2 => cases h
      | i + 3 => cases h
    exact fun i hcycle => Nat.lt_irrefl i (Relation.transGen_minimal hless i i hcycle)
  obtain ⟨hends, -, hnext, hleast, -⟩ := order_of_requests chainRequests
  obtain ⟨-, -, -, -, hcircular, -⟩ :=
    order_of_requests [⟨[⟨"A"⟩], [⟨"B"⟩]⟩, ⟨[⟨"B"⟩], [⟨"A"⟩]⟩]
  exact ⟨⟨by decide, hends 5 (by decide)⟩, hnext [1] 2 [0] rfl, ⟨hacyclic, hleast hacyclic⟩,
    rfl, by decide, hcircular 0 1 (by decide) (by decide)⟩

end Schedule

end Surrogates
