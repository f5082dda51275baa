/-
Surrogates.Proofs.TypeName.Simple — simple names, and paths.

The text behind the last separator of a name has no separator itself
(`cutLast_simple`), and a suffix without colons goes to the end of it
(`simple_withSuffix`). A path has only colons and the characters of words
(`isWordChar_or_eq_colon`), its simple name is a word (`isWord_simple`), and with
the characters of words behind it, it is a path again: `isPath_withSuffix`.
-/
import Surrogates.TypeName.Basic

namespace Surrogates.TypeName

/-! ## §1 The last separator -/

/-- A text is cut where its rest is, or else at a separator in front. -/
theorem cutLast_cons (c : Char) (rest : List Char) :
    cutLast (c :: rest) =
      match cutLast rest with
      | some (before, after) => some (c :: before, after)
      | none => if c = ':' ∧ rest.head? = some ':' then some ([], rest.tail) else none := by
  simp only [cutLast]
  cases cutLast rest with
  | some cut => rfl
  | none =>
    dsimp only
    split
    · simp
    · next hnot =>
      rw [if_neg]
      rintro ⟨rfl, hhead⟩
      obtain ⟨after, rfl⟩ := List.head?_eq_some_iff.mp hhead
      exact hnot after rfl rfl

theorem cutLast_of_notMem {cs : List Char} (h : ':' ∉ cs) : cutLast cs = none := by
  induction cs with
  | nil => rfl
  | cons c rest ih =>
    obtain ⟨hc, hrest⟩ := not_or.mp (mt List.mem_cons.mpr h)
    rw [cutLast_cons, ih hrest]
    exact if_neg fun ⟨heq, _⟩ => hc heq.symm

/-- Text without colons does not move the last separator. -/
theorem cutLast_append {suffix : List Char} (h : ':' ∉ suffix) (cs : List Char) :
    cutLast (cs ++ suffix) =
      (cutLast cs).map fun (before, after) => (before, after ++ suffix) := by
  induction cs with
  | nil => exact cutLast_of_notMem h
  | cons c rest ih =>
    rw [List.cons_append, cutLast_cons, cutLast_cons, ih]
    cases cutLast rest with
    | some cut => rfl
    | none =>
      cases rest with
      | nil =>
        have hhead : suffix.head? ≠ some ':' := fun heq => h (List.mem_of_head? heq)
        simp [hhead]
      | cons d more =>
        by_cases hcolons : c = ':' ∧ d = ':' <;> simp [hcolons]

theorem cutLast_eq_none_of_cons {c : Char} {rest : List Char} (h : cutLast (c :: rest) = none) :
    cutLast rest = none := by
  rw [cutLast_cons] at h
  cases hrest : cutLast rest with
  | none => rfl
  | some cut => simp [hrest] at h

/-- A text is cut where its rest is, or at a separator in front that is the only one. -/
theorem cutLast_cons_eq_some {c : Char} {rest before after : List Char}
    (h : cutLast (c :: rest) = some (before, after)) :
    (∃ more, cutLast rest = some (more, after) ∧ before = c :: more) ∨
      (cutLast rest = none ∧ c = ':' ∧ rest = ':' :: after ∧ before = []) := by
  rw [cutLast_cons] at h
  cases hrest : cutLast rest with
  | some cut =>
    rw [hrest] at h
    cases h
    exact .inl ⟨_, rfl, rfl⟩
  | none =>
    simp only [hrest] at h
    split at h
    · next hcolons =>
      obtain ⟨rfl, hhead⟩ := hcolons
      obtain ⟨tail, rfl⟩ := List.head?_eq_some_iff.mp hhead
      cases h
      exact .inr ⟨rfl, rfl, rfl, rfl⟩
    · cases h

/-- There is no separator behind the last one. -/
theorem cutLast_eq_none_of_cutLast {cs before after : List Char}
    (h : cutLast cs = some (before, after)) : cutLast after = none := by
  induction cs generalizing before with
  | nil => cases h
  | cons c rest ih =>
    rcases cutLast_cons_eq_some h with ⟨more, hrest, -⟩ | ⟨hrest, -, rfl, -⟩
    · exact ih hrest
    · exact cutLast_eq_none_of_cons hrest

theorem cutLast_separator_ne_none (cs : List Char) : cutLast (':' :: ':' :: cs) ≠ none := by
  rw [cutLast_cons]
  cases cutLast (':' :: cs) <;> simp

/-- A text without a separator is one piece. -/
theorem pieces_of_cutLast_eq_none {cs : List Char} (h : cutLast cs = none) : pieces cs = [cs] := by
  induction cs with
  | nil => rfl
  | cons c rest ih =>
    have hcolons : ∀ more, c = ':' → rest = ':' :: more → False := by
      rintro more rfl rfl
      exact cutLast_separator_ne_none more h
    rw [pieces, ih (cutLast_eq_none_of_cons h)]
    exact hcolons

theorem pieces_ne_nil (cs : List Char) : pieces cs ≠ [] := by
  fun_induction pieces cs <;> exact List.cons_ne_nil _ _

/-! ## §2 Simple names -/

theorem cutLast_simple (name : TypeName) : cutLast name.simple.toList = none := by
  unfold simple
  split
  · next heq => simpa using cutLast_eq_none_of_cutLast heq
  · next heq => exact heq

/-- A suffix without colons is a suffix of the simple name. -/
theorem simple_withSuffix (name : TypeName) {suffix : String} (h : ':' ∉ suffix.toList) :
    (name.withSuffix suffix).simple = name.simple ++ suffix := by
  unfold simple
  rw [text_withSuffix, String.toList_append, cutLast_append h]
  cases cutLast name.text.toList with
  | none => rfl
  | some cut => simp

/-! ## §3 Paths -/

theorem isWordChar_of_isWord {cs : List Char} (h : Text.Identifier.isWord cs = true) :
    ∀ c ∈ cs, Text.Identifier.isWordChar c = true := by
  cases cs with
  | nil => exact fun c hc => nomatch hc
  | cons first rest =>
    obtain ⟨hfirst, hrest⟩ := (Bool.and_eq_true ..).mp h
    refine List.forall_mem_cons.mpr ⟨?_, List.all_eq_true.mp hrest⟩
    simp only [Text.Identifier.isWordStart, Bool.or_eq_true] at hfirst
    simp only [Text.Identifier.isWordChar, Char.isAlphanum, Bool.or_eq_true]
    exact hfirst.imp_left .inl

theorem eq_colon_or_mem_pieces {cs : List Char} {c : Char} (h : c ∈ cs) :
    c = ':' ∨ ∃ piece ∈ pieces cs, c ∈ piece := by
  fun_induction pieces cs with
  | case1 => cases h
  | case2 rest ih =>
    rcases List.mem_cons.mp h with rfl | h
    · exact .inl rfl
    · rcases List.mem_cons.mp h with rfl | h
      · exact .inl rfl
      · exact (ih h).imp_right fun ⟨piece, hpiece, hc⟩ => ⟨piece, List.mem_cons_of_mem _ hpiece, hc⟩
  | case3 d rest hnot piece more heq ih =>
    rw [heq] at ih
    rcases List.mem_cons.mp h with rfl | h
    · exact .inr ⟨_, List.mem_cons_self, List.mem_cons_self⟩
    · refine (ih h).imp_right fun ⟨found, hfound, hc⟩ => ?_
      rcases List.mem_cons.mp hfound with rfl | hfound
      · exact ⟨_, List.mem_cons_self, List.mem_cons_of_mem _ hc⟩
      · exact ⟨found, List.mem_cons_of_mem _ hfound, hc⟩
  | case4 d rest hnot heq ih => exact absurd heq (pieces_ne_nil rest)

theorem isWordChar_or_eq_colon_of_pieces {cs : List Char}
    (h : (pieces cs).all Text.Identifier.isWord = true) {c : Char} (hc : c ∈ cs) :
    Text.Identifier.isWordChar c = true ∨ c = ':' := by
  rcases eq_colon_or_mem_pieces hc with hcolon | ⟨piece, hpiece, hc⟩
  · exact .inr hcolon
  · exact .inl (isWordChar_of_isWord (List.all_eq_true.mp h piece hpiece) c hc)

/-- A path has only colons and the characters of words. -/
theorem isWordChar_or_eq_colon {cs : List Char} (h : isPath cs = true) {c : Char} (hc : c ∈ cs) :
    Text.Identifier.isWordChar c = true ∨ c = ':' := by
  unfold isPath at h
  split at h
  · rcases List.mem_cons.mp hc with rfl | hc
    · exact .inr rfl
    · rcases List.mem_cons.mp hc with rfl | hc
      · exact .inr rfl
      · exact isWordChar_or_eq_colon_of_pieces h hc
  · exact isWordChar_or_eq_colon_of_pieces h hc

theorem notMem_of_isPath {cs : List Char} (h : isPath cs = true) {c : Char}
    (hword : Text.Identifier.isWordChar c = false) (hcolon : c ≠ ':') : c ∉ cs := by
  intro hc
  rcases isWordChar_or_eq_colon h hc with hmem | heq
  · rw [hword] at hmem
    cases hmem
  · exact hcolon heq

/-- Where all pieces but the first are words, so is what is behind the last
separator. -/
theorem isWord_of_cutLast {cs before after : List Char}
    (hpieces : ∀ piece ∈ (pieces cs).tail, Text.Identifier.isWord piece = true)
    (h : cutLast cs = some (before, after)) : Text.Identifier.isWord after = true := by
  fun_induction pieces cs generalizing before with
  | case1 => cases h
  | case2 rest ih =>
    rw [List.tail_cons] at hpieces
    have hword : cutLast rest = none → Text.Identifier.isWord rest = true := fun hnone =>
      hpieces rest (pieces_of_cutLast_eq_none hnone ▸ List.mem_singleton_self rest)
    rcases cutLast_cons_eq_some h with ⟨more, hmore, -⟩ | ⟨hnone, -, heq, -⟩
    · rcases cutLast_cons_eq_some hmore with ⟨more, hrest, -⟩ | ⟨hnone, -, rfl, -⟩
      · exact ih (fun piece hpiece => hpieces piece (List.mem_of_mem_tail hpiece)) hrest
      · -- a word does not begin with a colon
        exact absurd (isWordChar_of_isWord (hword hnone) ':' List.mem_cons_self) (by decide)
    · cases heq
      exact hword (cutLast_eq_none_of_cons hnone)
  | case3 d rest hnot piece more heq ih =>
    rw [heq] at ih
    rcases cutLast_cons_eq_some h with ⟨more, hrest, -⟩ | ⟨-, hcolon, htail, -⟩
    · exact ih hpieces hrest
    · exact (hnot after hcolon htail).elim
  | case4 d rest hnot heq ih => exact absurd heq (pieces_ne_nil rest)

/-- The simple name of a path is a word. -/
theorem isWord_simple {name : TypeName} (h : isPath name.text.toList = true) :
    Text.Identifier.isWord name.simple.toList = true := by
  have hpieces : ∀ piece ∈ (pieces name.text.toList).tail,
      Text.Identifier.isWord piece = true := by
    unfold isPath at h
    split at h
    · next heq =>
      rw [heq]
      exact List.all_eq_true.mp h
    · exact fun piece hpiece => List.all_eq_true.mp h piece (List.mem_of_mem_tail hpiece)
  unfold simple
  split
  · next heq => simpa using isWord_of_cutLast hpieces heq
  · next hnone =>
    unfold isPath at h
    split at h
    · next heq => exact absurd (heq ▸ hnone) (cutLast_separator_ne_none _)
    · simpa [pieces_of_cutLast_eq_none hnone] using h

/-- Text without colons goes to the end of the last piece. -/
theorem exists_pieces_append {suffix : List Char} (h : ':' ∉ suffix) (cs : List Char) :
    ∃ front last, pieces cs = front ++ [last] ∧ pieces (cs ++ suffix) = front ++ [last ++ suffix] := by
  fun_induction pieces cs with
  | case1 => exact ⟨[], [], rfl, pieces_of_cutLast_eq_none (cutLast_of_notMem h)⟩
  | case2 rest ih =>
    obtain ⟨front, last, heq, happend⟩ := ih
    exact ⟨[] :: front, last, by rw [heq]; rfl,
      by rw [List.cons_append, List.cons_append, pieces, happend]; rfl⟩
  | case3 d rest hnot piece more heq ih =>
    obtain ⟨front, last, hlast, happend⟩ := ih
    have hcolons : ∀ after, d = ':' → rest ++ suffix = ':' :: after → False := by
      rintro after rfl hafter
      cases rest with
      | nil => exact h (by rw [← List.nil_append suffix, hafter]; exact List.mem_cons_self)
      | cons e tail =>
        cases hafter
        exact hnot tail rfl rfl
    rw [List.cons_append, pieces.eq_3 _ _ hcolons, happend]
    cases front with
    | nil =>
      obtain ⟨rfl, rfl⟩ : piece = last ∧ more = [] := by simpa [heq] using hlast
      exact ⟨[], d :: piece, rfl, rfl⟩
    | cons first between =>
      obtain ⟨rfl, rfl⟩ : piece = first ∧ more = between ++ [last] := by simpa [heq] using hlast
      exact ⟨(d :: piece) :: between, last, rfl, rfl⟩
  | case4 d rest hnot heq ih => exact absurd heq (pieces_ne_nil rest)

theorem isWord_append {cs suffix : List Char} (h : Text.Identifier.isWord cs = true)
    (hsuffix : ∀ c ∈ suffix, Text.Identifier.isWordChar c = true) :
    Text.Identifier.isWord (cs ++ suffix) = true := by
  cases cs with
  | nil => cases h
  | cons first rest =>
    obtain ⟨hfirst, hrest⟩ := (Bool.and_eq_true ..).mp h
    rw [List.cons_append, Text.Identifier.isWord, List.all_append, hfirst, hrest,
      List.all_eq_true.mpr hsuffix]
    rfl

theorem all_pieces_append {cs suffix : List Char}
    (h : (pieces cs).all Text.Identifier.isWord = true)
    (hsuffix : ∀ c ∈ suffix, Text.Identifier.isWordChar c = true) :
    (pieces (cs ++ suffix)).all Text.Identifier.isWord = true := by
  have hcolon : ':' ∉ suffix := fun hmem => absurd (hsuffix _ hmem) (by decide)
  obtain ⟨front, last, heq, happend⟩ := exists_pieces_append hcolon cs
  rw [heq, List.all_append, Bool.and_eq_true] at h
  rw [happend, List.all_append, h.1, Bool.true_and]
  have hlast : Text.Identifier.isWord last = true := by simpa using h.2
  simp [isWord_append hlast hsuffix]

theorem isPath_append {cs suffix : List Char} (h : isPath cs = true)
    (hsuffix : ∀ c ∈ suffix, Text.Identifier.isWordChar c = true) :
    isPath (cs ++ suffix) = true := by
  unfold isPath at h
  split at h
  · exact all_pieces_append h hsuffix
  · next hnot =>
    unfold isPath
    split
    · next rest heq =>
      -- what has no separator in front is a word in front, and stays so
      match cs, hnot with
      | [], _ => cases h
      | [':'], _ => cases h
      | [c], _ =>
        cases heq
        cases h
      | c :: d :: tail, hnot =>
        cases heq
        exact absurd rfl (hnot tail)
    · exact all_pieces_append h hsuffix

/-- A path with a suffix of the characters of words is a path. -/
theorem isPath_withSuffix {name : TypeName} (h : isPath name.text.toList = true) {suffix : String}
    (hsuffix : ∀ c ∈ suffix.toList, Text.Identifier.isWordChar c = true) :
    isPath (name.withSuffix suffix).text.toList = true := by
  rw [text_withSuffix, String.toList_append]
  exact isPath_append h hsuffix

theorem parse?_eq_some {name : TypeName} (h : isPath name.text.toList = true) :
    parse? name.text = some name := by
  rw [parse?, if_pos h]

theorem isPath_of_parse? {text : String} {name : TypeName} (h : parse? text = some name) :
    isPath name.text.toList = true := by
  unfold parse? at h
  split at h
  · next hpath =>
    cases h
    exact hpath
  · cases h

end Surrogates.TypeName
