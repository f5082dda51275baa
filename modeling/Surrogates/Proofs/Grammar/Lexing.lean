/-
Surrogates.Proofs.Grammar.Lexing — the scan of texts that are put together
from the texts of tokens.

`Lexes` says that a text becomes certain tokens wherever the scan comes to
it, as long as an end stands behind. Of the tokens only the last may depend on
what follows: a sign knows whether another one does. Words (`lexes_word`) and
decimal numbers (`lexes_number`) become one token each, and there is a lemma
for each way to go on with a text that is known: `Lexes.append`,
`Lexes.cons_sign`, `Lexes.cons_blank`, `Lexes.group`. With them the texts of
paths (`lexes_path`), of lists (`lexes_list`) and of what is made of them, §5,
are settled.
-/
import Surrogates.Proofs.Grammar.Leaves
import Mathlib.Data.List.Forall2

namespace Surrogates.Grammar.Scan

open Text LiteralScan

/-! ## §1 Single steps -/

/-- Only a blank or a solidus can begin what the scan skips. -/
theorem gap_eq_nothing {c : Char} {cs : List Char} (hslash : c ≠ '/')
    (hblank : isBlank c = false) : gap (c :: cs) = .nothing := by
  unfold gap
  split <;> try (next h => exact absurd (List.cons.inj h).1 hslash)
  · next h =>
    obtain ⟨rfl, -⟩ := List.cons.inj h
    rw [hblank]
    rfl
  · rfl

section Steps

variable {fuel : Nat} {stack : List (Delimiter × List Token)} {found : List Token}
  {c : Char} {cs after : List Char} {token : Token}

/-- A step takes a blank. -/
theorem tokensWithin_blank :
    tokensWithin (fuel + 1) stack found (' ' :: cs) = tokensWithin fuel stack found cs := by
  have hgap : gap (' ' :: cs) = .skip cs := rfl
  rw [tokensWithin.eq_def]
  simp only [hgap]

/-- A step takes a token that is no group. -/
theorem tokensWithin_leaf (hgap : gap (c :: cs) = .nothing) (hopening : opening? c = none)
    (hclosing : closing? c = none) (hleaf : leaf? (c :: cs) = some (token, after)) :
    tokensWithin (fuel + 1) stack found (c :: cs) =
      tokensWithin fuel stack (token :: found) after := by
  rw [tokensWithin.eq_def]
  simp only [hgap, hopening, hclosing, hleaf, Option.bind_some]

/-- A step opens a group. -/
theorem tokensWithin_opening {d : Delimiter} (hgap : gap (c :: cs) = .nothing)
    (hopening : opening? c = some d) (hknown : unknownToken.isPrefixOf (c :: cs) = false) :
    tokensWithin (fuel + 1) stack found (c :: cs) =
      tokensWithin fuel ((d, found) :: stack) [] cs := by
  rw [tokensWithin.eq_def]
  simp only [hgap, hopening, hknown, Bool.false_eq_true, if_false]

/-- A step closes the group that was opened last. -/
theorem tokensWithin_closing {d : Delimiter} {before : List Token}
    (hgap : gap (c :: cs) = .nothing) (hopening : opening? c = none)
    (hclosing : closing? c = some d) :
    tokensWithin (fuel + 1) ((d, before) :: stack) found (c :: cs) =
      tokensWithin fuel stack (.group d found.reverse :: before) cs := by
  rw [tokensWithin.eq_def]
  simp only [hgap, hopening, hclosing, if_true]

end Steps

/-! ## §2 Texts and their tokens -/

/-- Wherever the scan comes to a text with an end behind, it reads the tokens,
given whether a sign follows. -/
def Lexes (text : List Char) (tokens : Bool → List Token) : Prop :=
  ∀ rest, Ends rest → ∀ fuel stack found, (text ++ rest).length ≤ fuel →
    ∃ fuel', rest.length ≤ fuel' ∧
      tokensWithin fuel stack found (text ++ rest) =
        tokensWithin fuel' stack ((tokens (startsSign rest)).reverse ++ found) rest

theorem lexes_nil : Lexes [] fun _ => [] :=
  fun _ _ fuel _ _ hfuel => ⟨fuel, hfuel, rfl⟩

/-- A text that is read as one token. -/
theorem lexes_leaf {c : Char} {cs : List Char} {tokens : Bool → Token}
    (hslash : c ≠ '/') (hblank : isBlank c = false) (hopening : opening? c = none)
    (hclosing : closing? c = none)
    (hleaf : ∀ rest, Ends rest →
      leaf? (c :: (cs ++ rest)) = some (tokens (startsSign rest), rest)) :
    Lexes (c :: cs) fun joint => [tokens joint] := by
  intro rest hrest fuel stack found hfuel
  obtain ⟨fuel, rfl⟩ : ∃ k, fuel = k + 1 := ⟨fuel - 1, by simp at hfuel; omega⟩
  refine ⟨fuel, by simp at hfuel; omega, ?_⟩
  exact tokensWithin_leaf (gap_eq_nothing hslash hblank) hopening hclosing (hleaf rest hrest)

theorem exists_start_of_isWord {text : String} (h : IsWord text) :
    ∃ c cs, text.toList = c :: cs ∧ Identifier.isStart c = true := by
  cases h with
  | plain hname =>
    obtain ⟨c, cs, htext, hstart, -⟩ := hname
    exact ⟨c, cs, htext, hstart⟩
  | @raw name _ _ => exact ⟨'r', '#' :: name.toList, by simp, by decide⟩

theorem lexes_word {text : String} (h : IsWord text) :
    Lexes text.toList fun _ => [.word text] := by
  have hleaf := fun rest (hrest : Ends rest) => leaf?_word h hrest
  obtain ⟨c, cs, htext, hstart⟩ := exists_start_of_isWord h
  have hne : ∀ d, Identifier.isStart d = false → c ≠ d := fun d hd =>
    Identifier.ne_of_isStart hstart hd
  rw [htext] at hleaf ⊢
  refine lexes_leaf (hne _ (by decide)) (Identifier.isBlank_eq_false_of_isStart hstart) ?_ ?_ hleaf
  · simp [opening?, hne '(' (by decide), hne '[' (by decide), hne '\x7b' (by decide)]
  · simp [closing?, hne ')' (by decide), hne ']' (by decide), hne '\x7d' (by decide)]

theorem lexes_number (n : Nat) :
    Lexes (toString n).toList fun _ => [.literal (.integer n false)] := by
  have hleaf := fun rest (hrest : Ends rest) => leaf?_number (n := n) hrest
  obtain ⟨c, cs, htext⟩ := List.exists_cons_of_ne_nil (toList_toString_ne_nil n)
  have hdigit : c.isDigit = true := isDigit_of_mem_toString (htext ▸ List.mem_cons_self)
  have hne : ∀ d, d.isDigit = false → c ≠ d := fun d hd => ne_of_isDigit hdigit hd
  rw [htext] at hleaf ⊢
  refine lexes_leaf (hne _ (by decide)) (Identifier.isBlank_eq_false_of_isDigit hdigit) ?_ ?_ hleaf
  · simp [opening?, hne '(' (by decide), hne '[' (by decide), hne '\x7b' (by decide)]
  · simp [closing?, hne ')' (by decide), hne ']' (by decide), hne '\x7d' (by decide)]

/-- The signs that stand in the text of a type. -/
def typeSigns : List Char := [':', '<', '>', ',', ';']

theorem leaf?_sign {c : Char} {rest : List Char} (hc : c ∈ typeSigns) :
    leaf? (c :: rest) = some (.sign c (startsSign rest), rest) := by
  simp only [typeSigns, List.mem_cons, List.not_mem_nil, or_false] at hc
  rcases hc with rfl | rfl | rfl | rfl | rfl <;> rfl

/-- A step takes a sign. -/
theorem tokensWithin_sign {c : Char} {rest : List Char} {fuel : Nat}
    {stack : List (Delimiter × List Token)} {found : List Token} (hc : c ∈ typeSigns) :
    tokensWithin (fuel + 1) stack found (c :: rest) =
      tokensWithin fuel stack (.sign c (startsSign rest) :: found) rest := by
  have hkind : ∀ d ∈ typeSigns, d ≠ '/' ∧ isBlank d = false ∧ opening? d = none ∧
      closing? d = none := List.all_iff_forall_prop.mp (by decide)
  obtain ⟨hslash, hblank, hopening, hclosing⟩ := hkind c hc
  exact tokensWithin_leaf (gap_eq_nothing hslash hblank) hopening hclosing (leaf?_sign hc)

theorem lexes_sign {c : Char} (hc : c ∈ typeSigns) : Lexes [c] fun joint => [.sign c joint] := by
  intro rest hrest fuel stack found hfuel
  obtain ⟨fuel, rfl⟩ : ∃ k, fuel = k + 1 := ⟨fuel - 1, by simp at hfuel; omega⟩
  exact ⟨fuel, by simp at hfuel; omega, tokensWithin_sign hc⟩

/-! ## §3 Texts put together -/

/-- Only a solidus can begin a comment where a sign could stand. -/
theorem startsSign_cons {c : Char} {cs : List Char} (hslash : c ≠ '/') :
    startsSign (c :: cs) = isSign c := by
  simp [startsSign, hslash]

/-- A text behind another. -/
theorem Lexes.append {before after : List Char} {tokens more : Bool → List Token}
    (hbefore : Lexes before tokens) (hafter : Lexes after more) (hends : Ends after)
    (hne : after ≠ []) :
    Lexes (before ++ after) fun joint => tokens (startsSign after) ++ more joint := by
  intro rest hrest fuel stack found hfuel
  obtain ⟨c, cs, rfl⟩ := List.exists_cons_of_ne_nil hne
  have hslash : c ≠ '/' := by
    have hne : ∀ d ∈ ends, d ≠ '/' := List.all_iff_forall_prop.mp (by decide)
    exact hne c (hends c rfl)
  have hjoint : startsSign (c :: (cs ++ rest)) = startsSign (c :: cs) := by
    rw [startsSign_cons hslash, startsSign_cons hslash]
  obtain ⟨fuel₁, hfuel₁, hfirst⟩ := hbefore (c :: (cs ++ rest)) (fun d hd => hends d hd) fuel stack
    found (by simpa using hfuel)
  obtain ⟨fuel₂, hfuel₂, hsecond⟩ := hafter rest hrest fuel₁ stack _ (by simpa using hfuel₁)
  refine ⟨fuel₂, hfuel₂, ?_⟩
  rw [List.append_assoc, List.cons_append, hfirst, ← List.cons_append, hsecond, List.cons_append,
    hjoint]
  simp

/-- A text behind a sign. -/
theorem Lexes.cons_sign {c d : Char} {cs : List Char} {tokens : Bool → List Token}
    (h : Lexes (d :: cs) tokens) (hc : c ∈ typeSigns) (hslash : d ≠ '/') :
    Lexes (c :: d :: cs) fun joint => .sign c (isSign d) :: tokens joint := by
  intro rest hrest fuel stack found hfuel
  obtain ⟨fuel, rfl⟩ : ∃ k, fuel = k + 1 := ⟨fuel - 1, by simp at hfuel; omega⟩
  obtain ⟨fuel', hfuel', hmore⟩ := h rest hrest fuel stack (.sign c (isSign d) :: found)
    (by simp at hfuel ⊢; omega)
  refine ⟨fuel', hfuel', ?_⟩
  rw [List.cons_append, List.cons_append, tokensWithin_sign hc, startsSign_cons hslash,
    ← List.cons_append, hmore]
  simp

/-- A text behind a blank. -/
theorem Lexes.cons_blank {cs : List Char} {tokens : Bool → List Token} (h : Lexes cs tokens) :
    Lexes (' ' :: cs) tokens := by
  intro rest hrest fuel stack found hfuel
  obtain ⟨fuel, rfl⟩ : ∃ k, fuel = k + 1 := ⟨fuel - 1, by simp at hfuel; omega⟩
  obtain ⟨fuel', hfuel', hmore⟩ := h rest hrest fuel stack found (by simp at hfuel ⊢; omega)
  exact ⟨fuel', hfuel', by rw [List.cons_append, tokensWithin_blank, hmore]⟩

/-- The brackets of tuples, and of slices and arrays. -/
def typeBrackets : List (Char × Char × Delimiter) :=
  [('(', ')', .paren), ('[', ']', .bracket)]

/-- The scan refuses a certain comment in parentheses; where no comment begins, there
is none. -/
theorem unknownToken_eq_false {opening : Char} {cs : List Char} (h : cs.head? ≠ some '/') :
    unknownToken.isPrefixOf (opening :: cs) = false := by
  obtain ⟨more, hmore⟩ : ∃ more, unknownToken = '(' :: '/' :: more := ⟨_, rfl⟩
  rw [hmore, List.isPrefixOf_cons_cons]
  cases cs with
  | nil => exact Bool.and_false _
  | cons c cs =>
    have hslash : ('/' == c) = false :=
      beq_eq_false_iff_ne.mpr fun heq => h (congrArg some heq.symm)
    rw [List.isPrefixOf_cons_cons, hslash, Bool.false_and, Bool.and_false]

/-- A text in brackets. -/
theorem Lexes.group {opening closing : Char} {d : Delimiter} {cs : List Char}
    {tokens : Bool → List Token} (h : Lexes cs tokens)
    (hbrackets : (opening, closing, d) ∈ typeBrackets) (hslash : cs.head? ≠ some '/') :
    Lexes (opening :: (cs ++ [closing])) fun _ => [.group d (tokens false)] := by
  intro rest hrest fuel stack found hfuel
  have hkind : ∀ brackets ∈ typeBrackets, brackets.1 ≠ '/' ∧ isBlank brackets.1 = false ∧
      opening? brackets.1 = some brackets.2.2 ∧ brackets.2.1 ∈ ends ∧ brackets.2.1 ≠ '/' ∧
      isBlank brackets.2.1 = false ∧ opening? brackets.2.1 = none ∧
      closing? brackets.2.1 = some brackets.2.2 ∧ isSign brackets.2.1 = false := by decide
  obtain ⟨hoslash, hoblank, hopening, hends, hcslash, hcblank, hcopening, hclosing, hsign⟩ :=
    hkind _ hbrackets
  obtain ⟨fuel, rfl⟩ : ∃ k, fuel = k + 1 := ⟨fuel - 1, by simp at hfuel; omega⟩
  obtain ⟨fuel', hfuel', hinside⟩ := h (closing :: rest)
    (fun c hc => by cases hc; exact hends) fuel ((d, found) :: stack) []
    (by simp at hfuel ⊢; omega)
  obtain ⟨fuel', rfl⟩ : ∃ k, fuel' = k + 1 := ⟨fuel' - 1, by simp at hfuel'; omega⟩
  have hknown : unknownToken.isPrefixOf (opening :: (cs ++ closing :: rest)) = false := by
    refine unknownToken_eq_false ?_
    cases cs with
    | nil => simpa using hcslash
    | cons c cs => exact hslash
  refine ⟨fuel', by simpa using hfuel', ?_⟩
  rw [List.cons_append, List.append_assoc, List.singleton_append,
    tokensWithin_opening (gap_eq_nothing hoslash hoblank) hopening hknown, hinside,
    tokensWithin_closing (gap_eq_nothing hcslash hcblank) hcopening hclosing,
    startsSign_cons hcslash, hsign]
  simp

/-- A text that lexes by itself has these tokens, with no sign behind. -/
theorem Lexes.tokens? {c : Char} {cs : List Char} {tokens : Bool → List Token}
    (h : Lexes (c :: cs) tokens) (hmark : c ≠ '\uFEFF') :
    Scan.tokens? (c :: cs) = some (tokens false) := by
  have hstrip : Scan.tokens? (c :: cs) = tokensWithin (c :: cs).length [] [] (c :: cs) := by
    unfold Scan.tokens?
    split
    · next heq => exact absurd (List.cons.inj heq).1 hmark
    · rfl
  obtain ⟨fuel', -, hscan⟩ := h [] (fun _ hc => nomatch hc) (c :: cs).length [] []
    (by rw [List.append_nil])
  rw [List.append_nil] at hscan
  rw [hstrip, hscan]
  cases fuel' <;> simp [tokensWithin, startsSign]

/-! ## §4 Paths and lists -/

/-- The tokens of a separator of segments. -/
def separator : List Token := [.sign ':' true, .sign ':' false]

/-- The tokens of a path of segments. -/
def pathTokens (rooted : Bool) (segments : List String) : List Token :=
  (if rooted then separator else []) ++
    separator.intercalate (segments.map fun text => [.word text])

/-- What begins like an identifier behind a separator. -/
theorem Lexes.cons_separator {c : Char} {cs : List Char} {tokens : Bool → List Token}
    (h : Lexes (c :: cs) tokens) (hstart : Identifier.isStart c = true) :
    Lexes (':' :: ':' :: c :: cs) fun joint => separator ++ tokens joint := by
  have hslash : c ≠ '/' := Identifier.ne_of_isStart hstart (by decide)
  have hsecond := h.cons_sign (c := ':') (by decide) hslash
  rw [isSign_eq_false_of_isStart hstart] at hsecond
  exact hsecond.cons_sign (by decide) (by decide)

theorem lexes_segments {segments : List String} (hne : segments ≠ [])
    (h : ∀ text ∈ segments, IsWord text) :
    ∃ c cs, ("::".intercalate segments).toList = c :: cs ∧ Identifier.isStart c = true ∧
      Lexes (c :: cs) fun _ => separator.intercalate (segments.map fun text => [.word text]) := by
  induction segments with
  | nil => exact absurd rfl hne
  | cons first rest ih =>
    have hfirst := h first List.mem_cons_self
    obtain ⟨c, cs, htext, hstart⟩ := exists_start_of_isWord hfirst
    have hword := lexes_word hfirst
    rw [htext] at hword
    cases rest with
    | nil => exact ⟨c, cs, by simpa using htext, hstart, hword⟩
    | cons second rest =>
      obtain ⟨d, ds, hmore, hstart', hlexes⟩ := ih (List.cons_ne_nil _ _)
        fun text htext => h text (List.mem_cons_of_mem _ htext)
      refine ⟨c, cs ++ ':' :: ':' :: d :: ds, ?_, hstart, ?_⟩
      · rw [String.toList_intercalate, List.map_cons] at hmore ⊢
        rw [List.map_cons, List.intercalate_cons_cons, hmore, htext]
        simp
      · have happend := hword.append (hlexes.cons_separator hstart')
          (fun _ hc => by cases hc; decide) (List.cons_ne_nil _ _)
        rw [List.map_cons, List.map_cons, List.intercalate_cons_cons, List.append_assoc]
        exact happend

/-- The text of a path, which begins with a word or with a separator. -/
theorem lexes_path {rooted : Bool} {segments : List String} (hne : segments ≠ [])
    (h : ∀ text ∈ segments, IsWord text) :
    ∃ c cs, (pathText rooted segments).toList = c :: cs ∧
      (Identifier.isStart c = true ∨ c = ':') ∧
      Lexes (c :: cs) fun _ => pathTokens rooted segments := by
  obtain ⟨c, cs, htext, hstart, hlexes⟩ := lexes_segments hne h
  cases rooted with
  | false => exact ⟨c, cs, by simpa [pathText] using htext, .inl hstart, hlexes⟩
  | true =>
    exact ⟨':', ':' :: c :: cs, by simp [pathText, htext], .inr rfl,
      hlexes.cons_separator hstart⟩

/-- The tokens of a list with commas between its items. -/
def listTokens : List (Bool → List Token) → Bool → List Token
  | [], _ => []
  | [tokens], joint => tokens joint
  | tokens :: rest, joint => tokens true ++ .sign ',' false :: listTokens rest joint

/-- A list with commas and blanks between its items. -/
theorem lexes_list {texts : List (List Char)} {tokens : List (Bool → List Token)}
    (h : List.Forall₂ Lexes texts tokens) :
    Lexes (", ".toList.intercalate texts) (listTokens tokens) := by
  induction h with
  | nil => exact lexes_nil
  | @cons text ts texts tokens hfirst hrest ih =>
    cases hrest with
    | nil =>
      rw [List.intercalate_singleton]
      exact hfirst
    | cons hsecond hrest =>
      have hmore := (ih.cons_blank).cons_sign (c := ',') (by decide) (by decide)
      have happend := hfirst.append hmore (fun _ hc => by cases hc; decide) (List.cons_ne_nil _ _)
      rw [List.intercalate_cons_cons, List.append_assoc]
      exact happend

/-! ## §5 Types -/

/-- A path with arguments in angle brackets. -/
theorem lexes_applied {rooted : Bool} {segments : List String} {c : Char} {cs : List Char}
    {tokens : Bool → List Token} (hne : segments ≠ []) (h : ∀ text ∈ segments, IsWord text)
    (hargs : Lexes (c :: cs) tokens) (hslash : c ≠ '/') :
    Lexes ((pathText rooted segments).toList ++ '<' :: (c :: cs ++ ['>'])) fun joint =>
      pathTokens rooted segments ++ .sign '<' (isSign c) :: (tokens true ++ [.sign '>' joint]) := by
  obtain ⟨d, ds, htext, -, hpath⟩ :
      ∃ d ds, (pathText rooted segments).toList = d :: ds ∧ _ := lexes_path hne h
  have hclose := hargs.append (lexes_sign (c := '>') (by decide))
    (fun _ hc => by cases hc; decide) (List.cons_ne_nil _ _)
  have hopen := hclose.cons_sign (c := '<') (by decide) hslash
  rw [htext]
  exact hpath.append hopen (fun _ hc => by cases hc; decide) (List.cons_ne_nil _ _)

/-- A tuple of one, with a comma behind it. -/
theorem lexes_single {cs : List Char} {tokens : Bool → List Token} (h : Lexes cs tokens)
    (hne : cs ≠ []) (hslash : cs.head? ≠ some '/') :
    Lexes ('(' :: (cs ++ [','] ++ [')'])) fun _ =>
      [.group .paren (tokens true ++ [.sign ',' false])] := by
  have hcomma := h.append (lexes_sign (c := ',') (by decide))
    (fun _ hc => by cases hc; decide) (List.cons_ne_nil _ _)
  exact hcomma.group (by decide) (by rwa [List.head?_append_of_ne_nil _ hne])

/-- An array, with its length behind a semicolon. -/
theorem lexes_array {cs : List Char} {tokens : Bool → List Token} (h : Lexes cs tokens)
    (hne : cs ≠ []) (hslash : cs.head? ≠ some '/') (length : Nat) :
    Lexes ('[' :: (cs ++ ';' :: ' ' :: (toString length).toList ++ [']'])) fun _ =>
      [.group .bracket (tokens true ++ [.sign ';' false, .literal (.integer length false)])] := by
  have hlength := ((lexes_number length).cons_blank).cons_sign (c := ';') (by decide) (by decide)
  have hitem := h.append hlength (fun _ hc => by cases hc; decide) (List.cons_ne_nil _ _)
  exact hitem.group (by decide) (by rwa [List.head?_append_of_ne_nil _ hne])

end Surrogates.Grammar.Scan
