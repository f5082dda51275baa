/-
Surrogates.Proofs.TypeExpr.Options — options of options.

An option is folded into its argument, but only if the argument is not nullable
already; so of several options around a type every second one is kept as a node.
`optionDepth` counts them again. Each option that is written adds one
(`optionDepth_foldOption`, `parse_option`), and the tree is nullable exactly if
their number is odd: `nullable_iff_odd`.
-/
import Surrogates.Proofs.TypeExpr.RoundTrip

namespace Surrogates.TypeExpr

open Grammar

/-! ## §1 Layers -/

mutual

/-- How many options stand around the rest of an expression. -/
def optionDepth : TypeExpr → Nat
  | node head args nullable =>
    nullable.toNat + if head.text ∈ optionNames then optionDepthOfOnly args else 0

/-- The options around the only argument of an option, and that option itself. -/
def optionDepthOfOnly : List TypeExpr → Nat
  | [arg] => optionDepth arg + 1
  | _ => 0

end

theorem optionDepth_asNullable {t : TypeExpr} (h : t.nullable = false) :
    t.asNullable.optionDepth = t.optionDepth + 1 := by
  obtain ⟨head, args, nullable⟩ := t
  obtain rfl : nullable = false := h
  rw [asNullable, optionDepth, optionDepth, Bool.toNat_true, Bool.toNat_false, Nat.zero_add,
    Nat.add_comm]

/-- Each option is a layer, whether it is folded or not. -/
theorem optionDepth_foldOption {head : String} (hhead : head ∈ optionNames) (t : TypeExpr) :
    (foldOption head [t]).optionDepth = t.optionDepth + 1 := by
  have hcontains : optionNames.contains head = true := List.contains_iff_mem.mpr hhead
  unfold foldOption
  dsimp only
  rw [hcontains, Bool.true_and]
  cases hnullable : t.nullable with
  | false => exact optionDepth_asNullable hnullable
  | true =>
    show optionDepth (node ⟨head⟩ [t] false) = _
    rw [optionDepth, if_pos hhead, optionDepthOfOnly, Bool.toNat_false, Nat.zero_add]

/-- Every second layer is folded, from the innermost on. -/
theorem nullable_iff_odd {t : TypeExpr} (h : t.Normal) :
    t.nullable = true ↔ t.optionDepth % 2 = 1 := by
  induction t using TypeExpr.induct with
  | node head args nullable ih =>
    obtain ⟨hnode, hargs⟩ := normal_node.mp h
    -- the argument of an option that is kept is nullable, so the options below are even in number
    have hbelow : (if head.text ∈ optionNames then optionDepthOfOnly args else 0) % 2 = 0 := by
      split
      · next hhead =>
        match args with
        | [] => rfl
        | [arg] =>
          have hodd : arg.optionDepth % 2 = 1 :=
            (ih arg List.mem_cons_self (hargs arg List.mem_cons_self)).mp
              (hnode.folded hhead arg rfl)
          rw [optionDepthOfOnly]
          omega
        | _ :: _ :: _ => rfl
      · rfl
    show nullable = true ↔ _
    rw [optionDepth]
    cases nullable with
    | false => rw [Bool.toNat_false, Nat.zero_add, hbelow]; decide
    | true => rw [Bool.toNat_true, Nat.add_mod, hbelow]; decide

/-! ## §2 Texts -/

theorem isSegment_of_isWord {text : String} (hword : Text.Identifier.isWord text.toList = true)
    (hidentifier : Grammar.isIdentifier text = true) : IsSegment text := by
  refine ⟨.plain ?_, .inl hidentifier⟩
  unfold Text.Identifier.isWord at hword
  split at hword
  · cases hword
  · next c rest heq =>
    obtain ⟨hfirst, hrest⟩ := Bool.and_eq_true_iff.mp hword
    exact ⟨c, rest, heq, Text.Identifier.isStart_of_isWordStart hfirst, fun d hd =>
      Text.Identifier.isContinue_of_isWordChar (List.all_eq_true.mp hrest d hd)⟩

/-- The words in the names of the option type. -/
def optionWords : List String :=
  ["std", "core", "option", "Option"]

theorem isPath_optionWords (rooted : Bool) {segments : List String}
    (h : ∀ text ∈ segments, text ∈ optionWords) : IsPath rooted segments where
  all text htext := by
    have hwords : ∀ text ∈ optionWords, Text.Identifier.isWord text.toList = true ∧
        Grammar.isIdentifier text = true := by decide
    obtain ⟨hword, hidentifier⟩ := hwords text (h text htext)
    exact isSegment_of_isWord hword hidentifier
  first _ hhead := absurd (h "try" (List.mem_of_head? hhead)) (by decide)

/-- The names of the option type are paths to it. -/
theorem exists_path_of_optionName {spelling : String} (h : spelling ∈ optionNames) :
    ∃ rooted before, IsPath rooted (before ++ ["Option"]) ∧
      spelling = pathText rooted (before ++ ["Option"]) := by
  simp only [optionNames, List.mem_cons, List.not_mem_nil, or_false] at h
  rcases h with rfl | rfl | rfl | rfl | rfl
  · exact ⟨false, [], isPath_optionWords _ (by decide), rfl⟩
  · exact ⟨false, ["std", "option"], isPath_optionWords _ (by decide), rfl⟩
  · exact ⟨false, ["core", "option"], isPath_optionWords _ (by decide), rfl⟩
  · exact ⟨true, ["std", "option"], isPath_optionWords _ (by decide), rfl⟩
  · exact ⟨true, ["core", "option"], isPath_optionWords _ (by decide), rfl⟩

/-- An option of a type that is read, in any spelling, is read and folded. -/
theorem parse_option {spelling : String} (hspelling : spelling ∈ optionNames) {t : TypeExpr}
    (h : t.Normal) (hfits : t.LengthsFit) :
    parse (spelling ++ "<" ++ t.render ++ ">") = .ok (foldOption spelling [t]) := by
  obtain ⟨rooted, before, hpath, rfl⟩ := exists_path_of_optionName hspelling
  have hlist : ", ".intercalate (renderArgs [t]) = t.render := by simp [renderArgs]
  rw [← hlist]
  exact parse_applied hpath (by decide)
    (List.forall_mem_singleton.mpr (exists_spelled t h hfits)) (List.cons_ne_nil _ _)

end Surrogates.TypeExpr
