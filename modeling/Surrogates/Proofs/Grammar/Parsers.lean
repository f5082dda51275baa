/-
Surrogates.Proofs.Grammar.Parsers — how parsers run.

The equations of §1 run a parser step by step; `bind_eq_ok` takes a run apart
again. §3 follows the words of the tokens through a run: a parser `Keeps`
them if what it leaves is as well worded as what it was given, at least where
its answer is of use.
-/
import Surrogates.Grammar.Basic
import Surrogates.Proofs.Grammar.Words

namespace Surrogates.Grammar

variable {α β : Type} {left after : Remainder}

/-! ## §1 Runs -/

theorem pure_run (found : α) : (pure found : Parser α) left = .ok (found, left) := rfl

theorem pure_eq_ok {answer found : α} :
    (pure answer : Parser α) left = .ok (found, after) ↔ answer = found ∧ left = after := by
  rw [pure_run, Except.ok.injEq, Prod.mk.injEq]

theorem tokens_bind (next : List Token → Parser α) :
    (tokens >>= next) left = next left.tokens left := rfl

theorem advance_bind (count : Nat) (next : Unit → Parser α) :
    (advance count >>= next) left = next () ⟨left.tokens.drop count, left.leftover⟩ := rfl

theorem ite_run {c : Prop} [Decidable c] (p q : Parser α) :
    (if c then p else q) left = if c then p left else q left := by
  split <;> rfl

theorem bind_run {p : Parser α} {next : α → Parser β} {found : α}
    (h : p left = .ok (found, after)) : (p >>= next) left = next found after := by
  show (p left >>= fun pair => next pair.1 pair.2) = _
  rw [h]
  rfl

/-- A run of two parsers one after the other. -/
theorem bind_eq_ok {p : Parser α} {next : α → Parser β} {result : β × Remainder} :
    (p >>= next) left = .ok result ↔
      ∃ found mid, p left = .ok (found, mid) ∧ next found mid = .ok result := by
  show (p left >>= fun pair => next pair.1 pair.2) = .ok result ↔ _
  cases p left with
  | error fault => simp [bind, Except.bind]
  | ok pair =>
    obtain ⟨found, mid⟩ := pair
    constructor
    · exact fun h => ⟨found, mid, rfl, h⟩
    · rintro ⟨_, _, hfound, h⟩
      cases hfound
      exact h

/-- A run within a group. -/
theorem inside_eq_ok {d : Delimiter} {p : Parser α} {found : α}
    (h : inside d p left = .ok (found, after)) :
    ∃ content rest inner, left.tokens = .group d content :: rest ∧
      p ⟨content, left.leftover⟩ = .ok (found, inner) ∧ after.tokens = rest := by
  unfold inside at h
  split at h
  · next d' content rest htokens =>
    split at h
    · next hd =>
      subst hd
      split at h
      · next found' inner hrun =>
        cases h
        exact ⟨content, rest, inner, htokens, hrun, rfl⟩
      · cases h
    · cases h
  · cases h

theorem inside_run {d : Delimiter} {p : Parser α} {content rest : List Token} {found : α}
    {leftover : Bool} (h : p ⟨content, leftover⟩ = .ok (found, ⟨[], leftover⟩)) :
    inside d p ⟨.group d content :: rest, leftover⟩ = .ok (found, ⟨rest, leftover⟩) := by
  simp [inside, h]

/-! ## §2 Signs -/

theorem takeIf_run (sign : String) :
    takeIf sign left =
      if peek sign left.tokens then .ok (true, ⟨left.tokens.drop sign.length, left.leftover⟩)
      else .ok (false, left) := by
  unfold takeIf
  rw [tokens_bind, ite_run]
  rfl

theorem take_run (sign : String) :
    take sign left =
      if peek sign left.tokens then .ok ((), ⟨left.tokens.drop sign.length, left.leftover⟩)
      else .error .malformed := by
  unfold take
  rw [tokens_bind, ite_run]
  rfl

/-! ## §3 Words through a run -/

/-- From well-worded tokens a parser finds something with a property, if what it
finds is of use, and leaves well-worded tokens. -/
def Keeps (p : Parser α) (useful property : α → Prop) : Prop :=
  ∀ left found after, Worded left.tokens → p left = .ok (found, after) → useful found →
    property found ∧ Worded after.tokens

theorem worded_takeIf {sign : String} {found : Bool} (hleft : Worded left.tokens)
    (h : takeIf sign left = .ok (found, after)) : Worded after.tokens := by
  rw [takeIf_run] at h
  split at h
  · cases h
    exact hleft.drop _
  · cases h
    exact hleft

theorem worded_take {sign : String} {found : Unit} (hleft : Worded left.tokens)
    (h : take sign left = .ok (found, after)) : Worded after.tokens := by
  rw [take_run] at h
  split at h
  · cases h
    exact hleft.drop _
  · cases h

theorem worded_lifetime {found : Unit} (hleft : Worded left.tokens)
    (h : lifetime left = .ok (found, after)) : Worded after.tokens := by
  unfold lifetime at h
  rw [tokens_bind, ite_run] at h
  split at h
  · cases h
    exact hleft.drop 1
  · cases h

/-- What is found in a group is found in the same way, and what is behind the
group is left, whatever the parser leaves inside. -/
theorem Keeps.inside {p : Parser α} {useful property : α → Prop}
    (h : ∀ left found after, Worded left.tokens → p left = .ok (found, after) → useful found →
      property found) (d : Delimiter) : Keeps (inside d p) useful property := by
  intro left found after hleft hrun huseful
  obtain ⟨content, rest, inner, htokens, hinner, hafter⟩ := inside_eq_ok hrun
  rw [htokens, worded_cons, worded_group] at hleft
  exact ⟨h ⟨content, left.leftover⟩ found inner hleft.1 hinner huseful, hafter ▸ hleft.2⟩

/-- Items with separators between them are found as one is. -/
theorem Keeps.separatedWithin {item : Parser α} {useful property : α → Prop}
    (h : Keeps item useful property) (separator : String) (stop : List Token → Bool) (fuel : Nat) :
    Keeps (separatedWithin item separator stop fuel) (∀ found ∈ ·, useful found)
      (∀ found ∈ ·, property found) := by
  induction fuel with
  | zero =>
    intro left found after _ hrun _
    cases hrun
  | succ fuel ih =>
    intro left found after hleft hrun huseful
    unfold Grammar.separatedWithin at hrun
    rw [tokens_bind, ite_run] at hrun
    split at hrun
    · cases hrun
      exact ⟨List.forall_mem_nil _, hleft⟩
    · obtain ⟨first, mid, hfirst, hrun⟩ := bind_eq_ok.mp hrun
      rw [tokens_bind, ite_run] at hrun
      split at hrun
      · obtain ⟨rfl, rfl⟩ := pure_eq_ok.mp hrun
        obtain ⟨hproperty, hmid⟩ := h left first mid hleft hfirst (huseful first (by simp))
        exact ⟨by simpa using hproperty, hmid⟩
      · obtain ⟨_, behind, htake, hrun⟩ := bind_eq_ok.mp hrun
        obtain ⟨more, last, hmore, hrun⟩ := bind_eq_ok.mp hrun
        obtain ⟨rfl, rfl⟩ := pure_eq_ok.mp hrun
        obtain ⟨hproperty, hmid⟩ := h left first mid hleft hfirst (huseful first (by simp))
        obtain ⟨hrest, hlast⟩ := ih behind more last (worded_take hmid htake) hmore
          fun found hfound => huseful found (List.mem_cons_of_mem _ hfound)
        exact ⟨List.forall_mem_cons.mpr ⟨hproperty, hrest⟩, hlast⟩

theorem Keeps.separated {item : Parser α} {useful property : α → Prop}
    (h : Keeps item useful property) (separator : String) (stop : List Token → Bool) :
    Keeps (separated item separator stop) (∀ found ∈ ·, useful found)
      (∀ found ∈ ·, property found) :=
  fun left => h.separatedWithin separator stop (left.tokens.length + 1) left

end Surrogates.Grammar
