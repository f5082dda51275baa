/-
Surrogates.Proofs.Generation.Disorder — entries before the entries that they
need.

Where every index that is left waits for another, the first of them is placed,
whether it is on a cycle or only leads to one. So an index can come before a
provider that does not wait for it. That happens exactly if following providers
from this one, through indices behind the first alone, comes to a cycle:
`mem_earlier_iff`. As long as the first is left, none of those can be placed
(`not_waits_of_mem_earlier`). For entries this says when one that is needed is
processed first: `needed_first_iff`. An entry that leads to a cycle behind it is
processed too early: `needed_last_reports`.
-/
import Surrogates.Proofs.Generation.Dependencies
import Surrogates.Proofs.Generation.LeastOrder

namespace Surrogates

namespace Schedule

variable {n : Nat} {providers : Nat → List Nat} {earlier later : List Nat} {i j : Nat}

/-! ## §1 Cycles behind an index -/

/-- The providers of the indices behind an index, as far as they are behind it
themselves. -/
def providersBehind (i : Nat) (providers : Nat → List Nat) (k : Nat) : List Nat :=
  if i < k then (providers k).filter (i < ·) else []

theorem awaits_providersBehind {k : Nat} :
    Awaits (providersBehind i providers) j k ↔ i < j ∧ i < k ∧ Awaits providers j k := by
  unfold Awaits providersBehind
  split
  · next hj => simp [hj, and_comm]
  · next hj => simp [hj]

theorem exists_circular_provider (h : Circular providers i) :
    ∃ j ∈ providers i, Circular providers j := by
  obtain ⟨k, hreach, hcycle⟩ := h
  rcases Relation.ReflTransGen.cases_head hreach with rfl | ⟨j, hj, hrest⟩
  · obtain ⟨j, hj, hback⟩ := Relation.TransGen.head'_iff.mp hcycle
    exact ⟨j, hj, i, hback, hcycle⟩
  · exact ⟨j, hj, k, hrest, hcycle⟩

/-- Before an index, none is placed of those behind it of which each waits for
another of them. -/
theorem not_waits_of_mem_earlier {waits : Nat → Prop}
    (hwaits : ∀ k, waits k → i < k ∧ ∃ j ∈ providers k, waits j)
    (hsplit : order n providers = earlier ++ i :: later) : ∀ k ∈ earlier, ¬waits k := by
  have hleft := next?_eq_some (next?_of_order hsplit)
  -- by induction on the front of what is placed before the index
  suffices hfront : ∀ front rest, earlier = front ++ rest → ∀ k ∈ front, ¬waits k from
    hfront earlier [] (List.append_nil _).symm
  intro front
  induction front using List.reverseRecOn with
  | nil => exact fun rest _ k hk => absurd hk List.not_mem_nil
  | append_singleton front last ih =>
    intro rest heq k hk
    have hbefore := ih (last :: rest) (by simpa using heq)
    rcases List.mem_append.mp hk with hk | hk
    · exact hbefore k hk
    · obtain rfl := List.mem_singleton.mp hk
      intro hlast
      obtain ⟨hbehind, j, hj, hwaiting⟩ := hwaits k hlast
      have hplaced : order n providers = front ++ k :: (rest ++ i :: later) := by
        simpa [heq] using hsplit
      rcases isNext_of_next? (next?_of_order hplaced) with hfree | ⟨-, hleast⟩
      · exact hbefore j (hfree.1.2 j hj) hwaiting
      · -- the index itself is left, and it is less
        have hi : i ∈ Left n front := by
          refine ⟨hleft.1, fun hmem => hleft.2 ?_⟩
          rw [heq]
          exact List.mem_append_left _ (List.mem_append_left _ hmem)
        exact absurd (hleast.2 hi) (Nat.not_le_of_lt hbehind)

/-- A provider that does not wait for an index is placed before it unless a cycle
can be reached from the provider by indices behind that index alone. -/
theorem mem_earlier_iff (hlt : ∀ i < n, ∀ j ∈ providers i, j < n)
    (hsplit : order n providers = earlier ++ i :: later) (hj : j ∈ providers i)
    (hback : ¬Relation.ReflTransGen (Awaits providers) j i) :
    j ∈ earlier ↔ ¬Circular (providersBehind i providers) j := by
  constructor
  · refine fun hmem => not_waits_of_mem_earlier (fun k hk => ?_) hsplit j hmem
    obtain ⟨l, hl, hcircular⟩ := exists_circular_provider hk
    obtain ⟨hbehind, -, hawaits⟩ := awaits_providersBehind.mp hl
    exact ⟨hbehind, l, hawaits, hcircular⟩
  · refine fun hnone => Classical.byContradiction fun hnot => ?_
    rcases isNext_of_next? (next?_of_order hsplit) with hfree | ⟨hstuck, hleast⟩
    · exact hnot (hfree.1.2 j hj)
    · -- what is left and can be reached from the provider is behind the index
      have hbehind : ∀ k ∈ Left n earlier, Relation.ReflTransGen (Awaits providers) j k → i < k := by
        intro k hk hreach
        refine Nat.lt_of_le_of_ne (hleast.2 hk) ?_
        rintro rfl
        exact hback hreach
      refine hnone (exists_cycle
        (fun k => k ∈ Left n earlier ∧ Relation.ReflTransGen (Awaits providers) j k)
        (fun _ hk => hk.1.1) ?_ ⟨⟨hlt i hleast.1.1 j hj, hnot⟩, .refl⟩)
      rintro k ⟨hk, hreach⟩
      obtain ⟨l, hl, hleft⟩ := exists_left_of_free_eq_empty hlt hstuck hk
      have hreach' := hreach.tail hl
      exact ⟨l, awaits_providersBehind.mpr ⟨hbehind k hk hreach, hbehind l hleft hreach', hl⟩,
        hleft, hreach'⟩

end Schedule

/-! ## §2 Entries that are needed -/

namespace Generator

variable {generator : Generator} {catalog : Catalog} {entries : List Entry}

/-- The places of the ready entries among each other, in the order in which they
are processed. -/
def processingOrder (generator : Generator) (catalog : Catalog) (entries : List Entry) :
    List Nat :=
  let ready := generator.readyEntries catalog entries
  Schedule.order ready.length (generator.providers (produced catalog ready) ready)

/-- Whether an entry depends on another one, and both are listed behind a third. -/
def DependsBehind (generator : Generator) (catalog : Catalog) (entries : List Entry)
    (first i j : Nat) : Prop :=
  first < i ∧ first < j ∧ generator.DependsOn catalog entries i j

theorem circular_providersBehind_iff {i j : Nat} :
    Schedule.Circular (Schedule.providersBehind i (generator.providers
        (produced catalog (generator.readyEntries catalog entries))
        (generator.readyEntries catalog entries))) j ↔
      ∃ k, Relation.ReflTransGen (generator.DependsBehind catalog entries i) j k ∧
        Relation.TransGen (generator.DependsBehind catalog entries i) k k := by
  have hsame : Schedule.Awaits (Schedule.providersBehind i (generator.providers
      (produced catalog (generator.readyEntries catalog entries))
      (generator.readyEntries catalog entries))) = generator.DependsBehind catalog entries i := by
    funext a b
    rw [DependsBehind, ← awaits_providers_iff]
    exact propext Schedule.awaits_providersBehind
  rw [Schedule.Circular, hsame]

/-- **Which needed entries come first.** A ready entry that another one depends
on, and that does not depend on that one itself, be it through others, is
processed before it unless dependencies from it, of entries behind that one
alone, come to a circle. -/
theorem needed_first_iff (generator : Generator) (catalog : Catalog) (entries : List Entry)
    (i j : Nat) (hdepends : generator.DependsOn catalog entries i j)
    (hback : ¬Relation.TransGen (generator.DependsOn catalog entries) j i) :
    let order := generator.processingOrder catalog entries
    generator.agenda catalog entries =
        order.filterMap ((generator.readyEntries catalog entries)[·]?) ∧
      (order.idxOf j < order.idxOf i ↔
        ¬∃ k, Relation.ReflTransGen (generator.DependsBehind catalog entries i) j k ∧
          Relation.TransGen (generator.DependsBehind catalog entries i) k k) := by
  intro order
  refine ⟨rfl, ?_⟩
  obtain ⟨needing, -, hi, -, hne, -⟩ := id hdepends
  obtain ⟨earlier, later, hsplit, hnot⟩ :
      ∃ earlier later, order = earlier ++ i :: later ∧ i ∉ earlier :=
    Schedule.exists_split_order (List.getElem?_eq_some_iff.mp hi).1
  have hawaits := awaits_providers_iff.mpr hdepends
  rw [Schedule.idxOf_lt_idxOf_iff hsplit hnot, ← circular_providersBehind_iff]
  refine Schedule.mem_earlier_iff (fun _ _ _ => lt_of_mem_providers) hsplit hawaits fun hreach => ?_
  rcases Relation.reflTransGen_iff_eq_or_transGen.mp hreach with heq | hreach
  · exact hne heq.symm
  · exact hback (Relation.TransGen.mono (fun _ _ => awaits_providers_iff.mp) j i hreach)

/-! ## §3 Authors and teams -/

/-- Reports have authors, authors have teams and teams have authors. -/
def reportCatalog : Catalog := .ofList
  [⟨⟨"Report"⟩, false, [⟨"author", .node ⟨"Author"⟩ [] false, .exported⟩]⟩,
   ⟨⟨"Author"⟩, false,
      [⟨"teams", .node ⟨"Vec"⟩ [.node ⟨"Team"⟩ [] false] false, .exported⟩]⟩,
   ⟨⟨"Team"⟩, false,
      [⟨"members", .node ⟨"Vec"⟩ [.node ⟨"Author"⟩ [] false] false, .exported⟩]⟩]

/-- Entries that list authors, reports and teams. -/
def authorsFirst : List Entry :=
  [(Entry.named "Authors").target ⟨"Author"⟩, (Entry.named "Reports").target ⟨"Report"⟩,
   (Entry.named "Teams").target ⟨"Team"⟩]

/-- Authors that are listed before reports are processed before them, although
authors and teams depend on each other. -/
theorem needed_first_authors :
    (ofOptions .standard).DependsOn reportCatalog authorsFirst 1 0 ∧
      ¬Relation.TransGen ((ofOptions .standard).DependsOn reportCatalog authorsFirst) 0 1 ∧
      ((ofOptions .standard).processingOrder reportCatalog authorsFirst).idxOf 0 <
        ((ofOptions .standard).processingOrder reportCatalog authorsFirst).idxOf 1 := by
  have hdepends : (ofOptions .standard).DependsOn reportCatalog authorsFirst 1 0 :=
    awaits_providers_iff.mp (List.mem_singleton.mpr rfl)
  have hback :
      ¬Relation.TransGen ((ofOptions .standard).DependsOn reportCatalog authorsFirst) 0 1 := by
    intro hreach
    obtain ⟨i, -, hlast⟩ := Relation.TransGen.tail'_iff.mp hreach
    have hproviders := awaits_providers_iff.mpr hlast
    match i with
    | 0 => exact absurd (List.mem_singleton.mp hproviders) (by decide)
    | 1 => exact absurd (List.mem_singleton.mp hproviders) (by decide)
    | 2 => exact absurd (List.mem_singleton.mp hproviders) (by decide)
    | i + 3 => cases hproviders
  refine ⟨hdepends, hback, ((needed_first_iff _ _ _ 1 0 hdepends hback).2).mpr ?_⟩
  -- no dependency of authors is behind reports, since they stand before them
  rintro ⟨k, hreach, hcycle⟩
  obtain ⟨next, hstep, -⟩ :=
    Relation.TransGen.head'_iff.mp (Relation.TransGen.trans_right hreach hcycle)
  exact absurd hstep.1 (by decide)

/-- Entries that list reports, authors and teams. -/
def reportsFirst : List Entry :=
  [(Entry.named "Reports").target ⟨"Report"⟩, (Entry.named "Authors").target ⟨"Author"⟩,
   (Entry.named "Teams").target ⟨"Team"⟩]

/-- Reports depend on authors, and authors not on reports, but reports are
processed first: authors and teams behind them depend on each other. -/
theorem needed_last_reports :
    (ofOptions .standard).DependsOn reportCatalog reportsFirst 0 1 ∧
      ¬Relation.TransGen ((ofOptions .standard).DependsOn reportCatalog reportsFirst) 1 0 ∧
      ¬((ofOptions .standard).processingOrder reportCatalog reportsFirst).idxOf 1 <
        ((ofOptions .standard).processingOrder reportCatalog reportsFirst).idxOf 0 ∧
      ((ofOptions .standard).runPass reportCatalog 1 reportsFirst).1.modules.map (·.entry) =
        ["Reports", "Authors", "Teams"] := by
  refine ⟨awaits_providers_iff.mp (List.mem_singleton.mpr rfl), fun hreach => ?_,
    by decide +kernel, by decide +kernel⟩
  obtain ⟨i, -, hlast⟩ := Relation.TransGen.tail'_iff.mp hreach
  have hproviders := awaits_providers_iff.mpr hlast
  match i with
  | 0 => exact absurd (List.mem_singleton.mp hproviders) (by decide)
  | 1 => exact absurd (List.mem_singleton.mp hproviders) (by decide)
  | 2 => exact absurd (List.mem_singleton.mp hproviders) (by decide)
  | i + 3 => cases hproviders

end Generator

end Surrogates
