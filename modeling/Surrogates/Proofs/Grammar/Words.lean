/-
Surrogates.Proofs.Grammar.Words — what the scan takes for words are words.

The tokens of a text have words of two forms, and only such: names, and names
behind `r#`. `Worded` says so of tokens and of those inside of groups, and
`worded_tokens?` of the tokens of every text.
-/
import Surrogates.Proofs.TypeExpr.Normal

namespace Surrogates.Grammar

/-! ## §1 The words of tokens -/

mutual

/-- The texts of the words in a token, those inside of a group included. -/
def Token.texts : Token → List String
  | .word text => [text]
  | .group _ content => textsOf content
  | _ => []

/-- The texts of the words in tokens. -/
def textsOf : List Token → List String
  | [] => []
  | token :: rest => token.texts ++ textsOf rest

end

theorem mem_textsOf {tokens : List Token} {text : String} :
    text ∈ textsOf tokens ↔ ∃ token ∈ tokens, text ∈ token.texts := by
  induction tokens with
  | nil => simp [textsOf]
  | cons token rest ih => simp [textsOf, ih]

/-- The words in a token are words. -/
def Token.Worded (token : Token) : Prop :=
  ∀ text ∈ token.texts, IsWord text

/-- The words in tokens are words. -/
def Worded (tokens : List Token) : Prop :=
  ∀ token ∈ tokens, token.Worded

@[simp] theorem worded_nil : Worded [] :=
  fun _ h => nomatch h

@[simp] theorem worded_cons {token : Token} {rest : List Token} :
    Worded (token :: rest) ↔ token.Worded ∧ Worded rest :=
  List.forall_mem_cons

@[simp] theorem worded_append {before after : List Token} :
    Worded (before ++ after) ↔ Worded before ∧ Worded after :=
  List.forall_mem_append

@[simp] theorem worded_reverse {tokens : List Token} : Worded tokens.reverse ↔ Worded tokens := by
  simp only [Worded, List.mem_reverse]

theorem Worded.drop {tokens : List Token} (h : Worded tokens) (n : Nat) :
    Worded (tokens.drop n) :=
  fun token htoken => h token (List.mem_of_mem_drop htoken)

theorem worded_group {d : Delimiter} {content : List Token} :
    (Token.group d content).Worded ↔ Worded content := by
  simp only [Token.Worded, Token.texts, mem_textsOf, Worded]
  exact ⟨fun h token htoken text htext => h text ⟨token, htoken, htext⟩,
    fun h text ⟨token, htoken, htext⟩ => h token htoken text htext⟩

theorem worded_word {text : String} : (Token.word text).Worded ↔ IsWord text := by
  simp [Token.Worded, Token.texts]

/-! ## §2 The words of a text -/

namespace Scan

open Text LiteralScan

theorem isName_of_word? {cs name after : List Char} (h : word? cs = some (name, after)) :
    IsName name := by
  cases cs with
  | nil => cases h
  | cons c rest =>
    rw [word?] at h
    split at h
    · next hstart =>
      cases h
      exact ⟨c, _, rfl, hstart, fun d hd => List.all_eq_true.mp List.all_takeWhile d hd⟩
    · cases h

theorem worded_anyWord? {cs after : List Char} {token : Token}
    (h : anyWord? cs = some (token, after)) : token.Worded := by
  unfold anyWord? at h
  split at h
  · next rest =>
    obtain ⟨⟨name, behind⟩, hname, h⟩ := Option.bind_eq_some_iff.mp h
    dsimp only at h
    split at h
    · cases h
    · next hraw =>
      cases h
      refine worded_word.mpr (.raw ?_ (by simpa using hraw))
      rw [String.toList_ofList]
      exact isName_of_word? hname
  · obtain ⟨⟨name, behind⟩, hname, h⟩ := Option.map_eq_some_iff.mp h
    cases h
    refine worded_word.mpr (.plain ?_)
    rw [String.toList_ofList]
    exact isName_of_word? hname

theorem worded_identifier? {cs after : List Char} {token : Token}
    (h : identifier? cs = some (token, after)) : token.Worded := by
  unfold identifier? at h
  split at h
  · cases h
  · exact worded_anyWord? h

theorem worded_quote? {cs after : List Char} {token : Token}
    (h : quote? cs = some (token, after)) : token.Worded := by
  unfold quote? at h
  split at h
  · split at h
    · cases h
      exact nofun
    · obtain ⟨found, -, h⟩ := Option.map_eq_some_iff.mp h
      cases h
      exact nofun
  · cases h

theorem worded_leaf? {cs after : List Char} {token : Token}
    (h : leaf? cs = some (token, after)) : token.Worded := by
  unfold leaf? at h
  split at h
  · cases h
    exact nofun
  · split at h
    · exact worded_quote? h
    · split at h
      · cases h
        exact nofun
      · split at h
        · cases h
          exact nofun
        · exact worded_identifier? h
    · cases h

theorem worded_documentation (inner : Bool) : Worded (documentation inner) := by
  have hdoc : IsWord "doc" :=
    .plain ⟨'d', ['o', 'c'], rfl, by decide, List.all_eq_true.mp (by decide)⟩
  have hsign : ∀ c, (Token.sign c false).Worded := fun _ _ h => nomatch h
  have hliteral : (Token.literal .text).Worded := fun _ h => nomatch h
  cases inner <;>
    simp [documentation, worded_group, worded_word, hdoc, hsign, hliteral]

theorem worded_tokensWithin {fuel : Nat} {stack : List (Delimiter × List Token)}
    {found tokens : List Token} {cs : List Char} (hfound : Worded found)
    (hstack : ∀ entry ∈ stack, Worded entry.2)
    (h : tokensWithin fuel stack found cs = some tokens) : Worded tokens := by
  fun_induction tokensWithin fuel stack found cs with
  | case1 =>
    cases h
    exact worded_reverse.mpr hfound
  | case2 | case3 | case6 | case10 | case11 => cases h
  | case4 _ _ _ _ _ _ _ ih => exact ih hfound hstack h
  | case5 _ _ _ _ _ inner _ _ ih =>
    refine ih (worded_append.mpr ⟨?_, hfound⟩) hstack h
    exact worded_reverse.mpr (worded_documentation inner)
  | case7 _ _ _ _ _ _ _ _ _ ih | case12 _ _ _ _ _ _ _ _ ih =>
    obtain ⟨⟨token, after⟩, hleaf, h⟩ := Option.bind_eq_some_iff.mp h
    exact ih token after (worded_cons.mpr ⟨worded_leaf? hleaf, hfound⟩) hstack h
  | case8 _ _ _ _ _ _ _ _ _ ih =>
    exact ih worded_nil (List.forall_mem_cons.mpr ⟨hfound, hstack⟩) h
  | case9 _ _ _ _ _ _ _ _ _ _ ih =>
    obtain ⟨hbefore, houter⟩ := List.forall_mem_cons.mp hstack
    refine ih (worded_cons.mpr ⟨?_, hbefore⟩) houter h
    exact worded_group.mpr (worded_reverse.mpr hfound)

/-- The words in the tokens of a text are words. -/
theorem worded_tokens? {cs : List Char} {tokens : List Token} (h : tokens? cs = some tokens) :
    Worded tokens :=
  worded_tokensWithin worded_nil (List.forall_mem_nil _) h

end Scan

end Surrogates.Grammar
