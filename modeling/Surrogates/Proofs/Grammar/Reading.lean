/-
Surrogates.Proofs.Grammar.Reading — what types are read from their tokens.

`Reads` says that tokens are read as a type on every level that they need,
wherever a type may end behind them, and `Spells` that they are tokens of a
tree. The tokens of a tree are put together from those of its arguments as its
text is: `spells_path` and `spells_applied` for paths, `spells_unit` and
`spells_tuple` for tuples, `spells_slice` and `spells_array`.
-/
import Surrogates.Proofs.Grammar.Lowering

namespace Surrogates.Grammar

open TypeExpr Scan

/-! ## §1 Where types begin and end -/

/-- The signs that may stand behind a type in a list, a path or an array. -/
def stops : List Char := [',', '>', ';']

/-- Tokens before which a type ends. -/
inductive Stops : List Token → Prop where
  | nil : Stops []
  | sign {c : Char} {joint : Bool} {rest : List Token} (stop : c ∈ stops) :
    Stops (.sign c joint :: rest)

/-- Tokens with which a path, a tuple, a slice or an array begins. -/
inductive Starts : List Token → Prop where
  | word {text : String} {rest : List Token}
    (taken : isIdentifier text = true ∨ text ∈ pathWords) : Starts (.word text :: rest)
  | separator {rest : List Token} : Starts (separator ++ rest)
  | group {d : Delimiter} {content rest : List Token} (bracket : d ≠ .brace) :
    Starts (.group d content :: rest)

theorem peek_sign_eq_false {sign : String} {c d : Char} {cs : List Char} {joint : Bool}
    {rest : List Token} (hsign : sign.toList = c :: cs) (hne : c ≠ d) :
    peek sign (.sign d joint :: rest) = false := by
  have hbeq : (c == d) = false := beq_eq_false_iff_ne.mpr hne
  rw [peek, hsign]
  cases cs <;> simp [peekSigns, hbeq]

theorem Stops.peek_eq_false {sign : String} {c : Char} {cs : List Char} {rest : List Token}
    (h : Stops rest) (hsign : sign.toList = c :: cs) (hc : c ∉ stops) :
    peek sign rest = false := by
  cases h with
  | nil =>
    rw [peek, hsign]
    cases cs <;> rfl
  | sign hstop => exact peek_sign_eq_false hsign fun heq => hc (heq ▸ hstop)

theorem Starts.peek_eq_false {sign : String} {c : Char} {cs : List Char} {ts : List Token}
    (h : Starts ts) (hsign : sign.toList = c :: cs) (hc : c ≠ ':') : peek sign ts = false := by
  cases h with
  | word _ | group _ =>
    rw [peek, hsign]
    cases cs <;> rfl
  | separator => exact peek_sign_eq_false hsign hc

theorem Starts.append {ts : List Token} (h : Starts ts) (rest : List Token) :
    Starts (ts ++ rest) := by
  cases h with
  | word taken => exact .word taken
  | separator => exact .separator
  | group bracket => exact .group bracket

theorem Starts.isEmpty_eq_false {ts : List Token} (h : Starts ts) : ts.isEmpty = false := by
  cases h <;> rfl

theorem Starts.peekLifetime_eq_false {ts : List Token} (h : Starts ts) :
    peekLifetime ts = false := by
  cases h <;> rfl

theorem Starts.peekConstant_eq_false {ts : List Token} (h : Starts ts) :
    peekConstant ts = false := by
  cases h with
  | @word text rest taken =>
    have hno : ∀ truth ∈ ["true", "false"], text ≠ truth := by
      have hkeyword : ∀ truth ∈ ["true", "false"],
          ¬(isIdentifier truth = true ∨ truth ∈ pathWords) := by decide
      rintro truth htruth rfl
      exact hkeyword text htruth taken
    simp [peekConstant, peekLiteral, literalLength, peekGroup, hno]
  | separator => rfl
  | @group d content rest bracket =>
    cases d with
    | paren | bracket => rfl
    | brace => exact absurd rfl bracket

/-- What begins like a path begins like no other type. -/
theorem peek_of_peekPath {ts : List Token} (h : peekPath ts = true) :
    peekWord "for" ts = false ∧ peekGroup .paren ts = false ∧ peekGroup .bracket ts = false ∧
      peekWordOf functionWords ts = false := by
  match ts, h with
  | .word text :: rest, h =>
    have hno : ∀ word ∈ "for" :: functionWords, text ≠ word := by
      have hkeyword : ∀ word ∈ "for" :: functionWords, peekPath (.word word :: []) = false := by
        decide
      rintro word hword rfl
      exact Bool.false_ne_true ((hkeyword text hword).symm.trans h)
    have hfunction : functionWords.contains text = false :=
      Bool.eq_false_iff.mpr fun hmem =>
        hno text (List.mem_cons_of_mem _ (List.contains_iff_mem.mp hmem)) rfl
    exact ⟨beq_eq_false_iff_ne.mpr (hno _ List.mem_cons_self), rfl, rfl, hfunction⟩
  | .sign c joint :: rest, h => exact ⟨rfl, rfl, rfl, rfl⟩

/-- A type that begins like a path is one. -/
theorem type_eq_pathType {g : Productions} {plus : Bool} {ts : List Token} {leftover : Bool}
    (h : peekPath ts = true) :
    type g plus ⟨ts, leftover⟩ = pathType g plus false ⟨ts, leftover⟩ := by
  obtain ⟨hfor, hparen, hbracket, hfunction⟩ := peek_of_peekPath h
  unfold type
  rw [tokens_bind, ite_run, ite_run, ite_run, ite_run, ite_run]
  simp only [hfor, hparen, hbracket, hfunction, h, Bool.false_eq_true, if_false, if_true]

/-! ## §2 Tokens of a tree -/

/-- A parser takes tokens and finds something, wherever a type may end behind them. -/
def Takes {α : Type} (p : Parser α) (found : α) (ts : List Token) : Prop :=
  ∀ rest leftover, Stops rest → p ⟨ts ++ rest, leftover⟩ = .ok (found, ⟨rest, leftover⟩)

/-- Tokens are read as a type on every level that is high enough for them. -/
def Reads (ts : List Token) (reading : TypeReading) : Prop :=
  ∀ n, weights ts < n → ∀ plus, Takes ((level n).type plus) reading ts

/-- Tokens of a tree, of which the last may depend on whether a sign follows. -/
structure Spells (tokens : Bool → List Token) (t : TypeExpr) : Prop where
  starts : ∀ joint, Starts (tokens joint)
  reads : ∃ shape, ∀ joint, Reads (tokens joint) ⟨.ok t, shape⟩

theorem weights_append {before after : List Token} :
    weights (before ++ after) = weights before + weights after := by
  induction before with
  | nil => simp [weights]
  | cons token rest ih =>
    rw [List.cons_append, weights, weights, ih]
    omega

/-- Tokens with a weight are read on a level that is not the lowest. -/
theorem Reads.of_type {ts : List Token} {reading : TypeReading}
    (h : ∀ n, weights ts < n + 1 → ∀ plus, Takes (type (level n) plus) reading ts) :
    Reads ts reading := by
  intro n hn
  obtain ⟨n, rfl⟩ : ∃ k, n = k + 1 := ⟨n - 1, by omega⟩
  exact h n hn

theorem listTokens_cons_cons (first second : Bool → List Token) (rest : List (Bool → List Token))
    (joint : Bool) : listTokens (first :: second :: rest) joint =
      first true ++ .sign ',' false :: listTokens (second :: rest) joint := rfl

theorem take_comma {joint leftover : Bool} {rest : List Token} :
    take "," ⟨.sign ',' joint :: rest, leftover⟩ = .ok ((), ⟨rest, leftover⟩) := rfl

section Lists

variable {α : Type} {item : Parser α} {stop : List Token → Bool} {n : Nat}

/-- Items with commas between them are taken as each of them is. -/
theorem separatedWithin_run {tokens : List (Bool → List Token)} {found : List α}
    (hitems : List.Forall₂ (fun ts found => ∀ joint, weights (ts joint) < n →
      Takes item found (ts joint)) tokens found)
    (hitem : ∀ ts ∈ tokens, ∀ joint rest, stop (ts joint ++ rest) = false)
    (hcomma : ∀ rest, stop (.sign ',' false :: rest) = false) {joint leftover : Bool}
    {rest : List Token} (hrest : Stops rest) (hstop : stop rest = true) {fuel : Nat}
    (hfuel : (listTokens tokens joint ++ rest).length < fuel)
    (hweight : weights (listTokens tokens joint) < n) :
    separatedWithin item "," stop fuel ⟨listTokens tokens joint ++ rest, leftover⟩ =
      .ok (found, ⟨rest, leftover⟩) := by
  induction hitems generalizing fuel with
  | nil =>
    obtain ⟨fuel, rfl⟩ : ∃ k, fuel = k + 1 := ⟨fuel - 1, by omega⟩
    unfold separatedWithin
    rw [tokens_bind, ite_run]
    exact if_pos hstop
  | @cons ts first tokens more hfirst hmore ih =>
    obtain ⟨fuel, rfl⟩ : ∃ k, fuel = k + 1 := ⟨fuel - 1, by omega⟩
    have hbegin : ∀ joint rest, ¬stop (ts joint ++ rest) = true := fun joint rest =>
      Bool.eq_false_iff.mp (hitem ts List.mem_cons_self joint rest)
    cases hmore with
    | nil =>
      rw [listTokens] at hweight ⊢
      unfold separatedWithin
      rw [tokens_bind, ite_run, if_neg (hbegin joint rest),
        bind_run (hfirst joint hweight rest leftover hrest), tokens_bind, ite_run]
      exact if_pos hstop
    | @cons ts' second tokens more hsecond hmore =>
      rw [listTokens_cons_cons] at hweight hfuel ⊢
      rw [List.append_assoc, List.cons_append] at hfuel ⊢
      rw [weights_append, weights] at hweight
      -- every item but the last has a comma, so the tokens bound the number of items
      have hless : (listTokens (ts' :: tokens) joint ++ rest).length < fuel := by
        simp only [List.length_append, List.length_cons] at hfuel ⊢
        omega
      have hbehind := ih (fun ts hts => hitem ts (List.mem_cons_of_mem _ hts)) hless (by omega)
      unfold separatedWithin
      rw [tokens_bind, ite_run, if_neg (hbegin _ _),
        bind_run (hfirst true (by omega) _ leftover (.sign (by decide))), tokens_bind, ite_run,
        if_neg (Bool.eq_false_iff.mp (hcomma _)), bind_run take_comma, bind_run hbehind]
      rfl

/-- Items with commas between them are taken as each of them is. -/
theorem separated_run {tokens : List (Bool → List Token)} {found : List α}
    (hitems : List.Forall₂ (fun ts found => ∀ joint, weights (ts joint) < n →
      Takes item found (ts joint)) tokens found)
    (hitem : ∀ ts ∈ tokens, ∀ joint rest, stop (ts joint ++ rest) = false)
    (hcomma : ∀ rest, stop (.sign ',' false :: rest) = false) {joint leftover : Bool}
    {rest : List Token} (hrest : Stops rest) (hstop : stop rest = true)
    (hweight : weights (listTokens tokens joint) < n) :
    separated item "," stop ⟨listTokens tokens joint ++ rest, leftover⟩ =
      .ok (found, ⟨rest, leftover⟩) := by
  unfold separated
  rw [tokens_bind]
  exact separatedWithin_run hitems hitem hcomma hrest hstop (Nat.lt_succ_self _) hweight

end Lists

/-! ## §3 Paths -/

section Paths

variable {g : Productions} {text : String} {rest : List Token} {leftover : Bool}

/-- A segment to which nothing is applied. -/
def Segment.bare (name : String) : Segment := ⟨name, none⟩

theorem segment_bare (h : IsSegment text) (hrest : peekArguments false rest = false) :
    segment g false ⟨.word text :: rest, leftover⟩ = .ok (.bare text, ⟨rest, leftover⟩) := by
  unfold segment
  rw [tokens_bind]
  dsimp only
  rw [ite_run, ite_run]
  split
  · rfl
  split
  · rw [advance_bind, ite_run]
    exact if_neg (Bool.eq_false_iff.mp hrest)
  · next hbare htaken =>
    rcases h.taken with hidentifier | hself | hmem
    · exact absurd (by simp [hidentifier]) htaken
    · exact absurd (by simp [hself]) htaken
    · exact absurd (List.contains_iff_mem.mpr hmem) hbare

theorem segment_applied {args : List Argument} {after : Remainder} (h : IsSegment text)
    (hbare : text ∉ bareSegments) (hrest : peekArguments false rest = true)
    (hcolons : peek "::" rest = false) (hargs : arguments g ⟨rest, leftover⟩ = .ok (args, after)) :
    segment g false ⟨.word text :: rest, leftover⟩ = .ok (⟨text, some args⟩, after) := by
  have htaken : (isIdentifier text || text == "Self") = true := by
    rcases h.taken with hidentifier | hself | hmem
    · simp [hidentifier]
    · simp [hself]
    · exact absurd hmem hbare
  have hskip : takeIf "::" ⟨rest, leftover⟩ = .ok (false, ⟨rest, leftover⟩) := by
    rw [takeIf_run]
    exact if_neg (Bool.eq_false_iff.mp hcolons)
  unfold segment
  rw [tokens_bind]
  dsimp only
  rw [ite_run, ite_run, if_neg (mt List.contains_iff_mem.mp hbare), if_pos htaken, advance_bind,
    ite_run]
  refine (if_pos hrest).trans ?_
  refine (bind_run hskip).trans ?_
  rw [bind_run hargs]
  rfl

/-- The tokens of segments begin with the first of them. -/
theorem exists_intercalate_eq {names : List String} (hne : names ≠ []) (tail : List Token) :
    ∃ first more, names.head? = some first ∧
      separator.intercalate (names.map fun text => [.word text]) ++ tail = .word first :: more := by
  obtain ⟨first, rest, rfl⟩ := List.exists_cons_of_ne_nil hne
  cases rest with
  | nil => exact ⟨first, tail, rfl, by simp⟩
  | cons second rest =>
    rw [List.map_cons, List.map_cons, List.intercalate_cons_cons]
    exact ⟨first, _, rfl, rfl⟩

/-- Segments to which nothing is applied, and the last. -/
theorem segments_run {before : List String} {last : String} {final : Segment}
    {tail : List Token} {after : Remainder} (hbefore : ∀ text ∈ before, IsSegment text)
    (hlast : segment g false ⟨.word last :: tail, leftover⟩ = .ok (final, after))
    (hafter : peek "::" after.tokens = false) {fuel : Nat}
    (hfuel : (separator.intercalate ((before ++ [last]).map fun text => [.word text]) ++
      tail).length < fuel) :
    segments g false fuel ⟨separator.intercalate ((before ++ [last]).map fun text =>
      [.word text]) ++ tail, leftover⟩ = .ok (before.map .bare ++ [final], after) := by
  induction before generalizing fuel with
  | nil =>
    obtain ⟨fuel, rfl⟩ : ∃ k, fuel = k + 1 := ⟨fuel - 1, by omega⟩
    unfold segments
    rw [List.nil_append, List.map_singleton, List.intercalate_singleton, List.singleton_append,
      bind_run hlast, tokens_bind, ite_run]
    exact if_neg (by simp [hafter])
  | cons first before ih =>
    obtain ⟨fuel, rfl⟩ : ∃ k, fuel = k + 1 := ⟨fuel - 1, by omega⟩
    obtain ⟨hfirst, hothers⟩ := List.forall_mem_cons.mp hbefore
    have hne : before ++ [last] ≠ [] := by simp
    obtain ⟨second, more, -, hsecond⟩ := exists_intercalate_eq hne tail
    rw [List.cons_append, List.map_cons, List.intercalate_cons_of_ne_nil (by simp),
      List.append_assoc, List.append_assoc, hsecond, List.singleton_append] at hfuel ⊢
    have hless : (Token.word second :: more).length < fuel := by
      simp only [List.length_append, List.length_cons] at hfuel ⊢
      omega
    rw [← hsecond] at hless
    have hmore := ih hothers hless
    rw [hsecond] at hmore
    unfold segments
    rw [bind_run (segment_bare hfirst rfl), tokens_bind, ite_run]
    refine (if_pos rfl).trans ?_
    rw [advance_bind]
    exact (bind_run hmore).trans rfl

/-- A path whose last segment is taken. -/
theorem path_run {rooted : Bool} {before : List String} {last : String} {final : Segment}
    {tail : List Token} {after : Remainder} (hbefore : ∀ text ∈ before, IsSegment text)
    (hlast : segment g false ⟨.word last :: tail, leftover⟩ = .ok (final, after))
    (hafter : peek "::" after.tokens = false) :
    path g false ⟨pathTokens rooted (before ++ [last]) ++ tail, leftover⟩ =
      .ok (⟨rooted, before.map .bare ++ [final]⟩, after) := by
  have hne : before ++ [last] ≠ [] := by simp
  obtain ⟨first, more, -, hfirst⟩ := exists_intercalate_eq hne tail
  have hsegments := segments_run hbefore hlast hafter (Nat.lt_succ_self _)
  have hrooted : takeIf "::" ⟨pathTokens rooted (before ++ [last]) ++ tail, leftover⟩ =
      .ok (rooted, ⟨separator.intercalate ((before ++ [last]).map fun text =>
        [.word text]) ++ tail, leftover⟩) := by
    cases rooted with
    | true => rfl
    | false =>
      rw [pathTokens, if_neg Bool.false_ne_true, List.nil_append, hfirst]
      rfl
  unfold path
  rw [bind_run hrooted, tokens_bind, bind_run hsegments]
  rfl

/-- The tokens of a path that is a type begin with a separator or with a word that
may begin a path. -/
theorem pathTokens_cases {rooted : Bool} {names : List String} (hne : names ≠ [])
    (h : IsPath rooted names) :
    (∃ more, pathTokens rooted names = separator ++ more) ∨
      ∃ first more, (isIdentifier first = true ∨ first ∈ pathWords) ∧
        pathTokens rooted names = .word first :: more := by
  cases rooted with
  | true => exact .inl ⟨_, rfl⟩
  | false =>
    obtain ⟨first, more, hhead, hfirst⟩ := exists_intercalate_eq hne []
    rw [List.append_nil] at hfirst
    refine .inr ⟨first, more, ?_, by rw [pathTokens, hfirst]; rfl⟩
    have htry : first ≠ "try" := fun heq => h.first rfl (heq ▸ hhead)
    rcases (h.all first (List.mem_of_head? hhead)).taken with hidentifier | rfl | hbare
    · exact .inl hidentifier
    · exact .inr (by decide)
    · have hwords : ∀ word ∈ bareSegments, word ≠ "try" → word ∈ pathWords := by decide
      exact .inr (hwords first hbare htry)

theorem starts_pathTokens {rooted : Bool} {names : List String} (hne : names ≠ [])
    (h : IsPath rooted names) (rest : List Token) : Starts (pathTokens rooted names ++ rest) := by
  rcases pathTokens_cases hne h with ⟨more, heq⟩ | ⟨first, more, htaken, heq⟩
  · rw [heq]
    exact .separator
  · rw [heq]
    exact .word htaken

theorem peekPath_pathTokens {rooted : Bool} {names : List String} (hne : names ≠ [])
    (h : IsPath rooted names) (rest : List Token) :
    peekPath (pathTokens rooted names ++ rest) = true := by
  rcases pathTokens_cases hne h with ⟨more, heq⟩ | ⟨first, more, htaken, heq⟩
  · rw [heq]
    rfl
  · rw [heq]
    rcases htaken with hidentifier | hword
    · simp [peekPath, peekIdentifier, hidentifier]
    · simp [peekPath, peekWordOf, hword]

/-- The tree of a path of which only the last segment may have arguments. -/
theorem lowerPath_eq {rooted : Bool} {before : List String} {last : String}
    {arguments : Option (List Argument)} {args : List TypeExpr}
    (hargs : ∀ path, lowerArguments path (arguments.getD []) = .ok args) :
    lowerPath ⟨rooted, before.map .bare ++ [⟨last, arguments⟩]⟩ =
      .ok (foldOption (pathText rooted (before ++ [last])) args) := by
  have hnone : (before.map Segment.bare).find? (·.arguments.isSome) = none := by
    refine List.find?_eq_none.mpr fun segment hsegment => ?_
    obtain ⟨name, -, rfl⟩ := List.mem_map.mp hsegment
    exact Bool.false_ne_true
  have hname : Path.name ⟨rooted, before.map .bare ++ [⟨last, arguments⟩]⟩ =
      pathText rooted (before ++ [last]) := by
    have hbare : (fun segment => segment.name) ∘ Segment.bare = id := rfl
    simp [Path.name, pathText, hbare]
  unfold lowerPath
  rw [List.dropLast_concat, hnone, List.getLast?_concat, Option.bind_some]
  dsimp only
  rw [hargs, hname]
  rfl

/-- A path that is a type, wherever a type may end behind it. -/
theorem type_path {rooted plus : Bool} {before : List String} {last : String}
    {arguments : Option (List Argument)} {tail : List Token} {args : List TypeExpr}
    (hpath : IsPath rooted (before ++ [last]))
    (hlast : segment g false ⟨.word last :: tail, leftover⟩ =
      .ok (⟨last, arguments⟩, ⟨rest, leftover⟩)) (hrest : Stops rest)
    (hargs : ∀ path, lowerArguments path (arguments.getD []) = .ok args) :
    type g plus ⟨pathTokens rooted (before ++ [last]) ++ tail, leftover⟩ =
      .ok (⟨.ok (foldOption (pathText rooted (before ++ [last])) args),
        Path.shape ⟨rooted, before.map .bare ++ [⟨last, arguments⟩]⟩⟩, ⟨rest, leftover⟩) := by
  have hne : before ++ [last] ≠ [] := by simp
  have hbefore : ∀ text ∈ before, IsSegment text := fun text htext =>
    hpath.all text (List.mem_append_left _ htext)
  have hrun : path g false ⟨pathTokens rooted (before ++ [last]) ++ tail, leftover⟩ = _ :=
    path_run hbefore hlast (hrest.peek_eq_false rfl (by decide))
  have hinvoked : isInvoked ⟨rooted, before.map .bare ++ [⟨last, arguments⟩]⟩ rest = false := by
    simp [isInvoked, hrest.peek_eq_false (rfl : "!".toList = '!' :: []) (by decide)]
  have hplus : peek "+" rest = false := hrest.peek_eq_false rfl (by decide)
  rw [type_eq_pathType (peekPath_pathTokens hne hpath _)]
  unfold pathType
  rw [bind_run hrun, tokens_bind, ite_run, ite_run, ite_run]
  simp only [hinvoked, hplus, Bool.and_false, Bool.false_and, Bool.false_eq_true, if_false]
  rw [pure_run, lowerPath_eq hargs]

end Paths

/-- A path to which nothing is applied. -/
theorem spells_path {rooted : Bool} {before : List String} {last : String}
    (h : IsPath rooted (before ++ [last])) :
    Spells (fun _ => pathTokens rooted (before ++ [last]))
      (.node ⟨pathText rooted (before ++ [last])⟩ [] false) where
  starts _ := by simpa using starts_pathTokens (by simp) h []
  reads := by
    refine ⟨Path.shape ⟨rooted, before.map .bare ++ [.bare last]⟩, fun _ => .of_type ?_⟩
    intro n _ plus rest leftover hrest
    have hangle : peekArguments false rest = false := by
      have hless : peek "<" rest = false := hrest.peek_eq_false rfl (by decide)
      have hcolons : peek "::" rest = false := hrest.peek_eq_false rfl (by decide)
      simp [peekArguments, hless, hcolons]
    have hlast : segment (level n) false ⟨.word last :: rest, leftover⟩ =
        .ok (⟨last, none⟩, ⟨rest, leftover⟩) := segment_bare (h.all last (by simp)) hangle
    exact type_path h hlast hrest fun _ => rfl

/-- Arguments in angle brackets behind a segment begin like a type. -/
theorem peekArguments_of_starts {ts : List Token} {joint : Bool} (h : Starts ts) :
    peekArguments false (.sign '<' joint :: ts) = true := by
  cases h <;> cases joint <;> rfl

theorem lowerArguments_map (path : String) (args : List TypeExpr) :
    lowerArguments path (args.map fun t => .type (.ok t)) = .ok args := by
  induction args with
  | nil => rfl
  | cons arg args ih =>
    rw [List.map_cons, lowerArguments, ih]
    rfl

theorem takeIf_eq_false {sign : String} {rest : List Token} {leftover : Bool}
    (h : peek sign rest = false) :
    takeIf sign ⟨rest, leftover⟩ = .ok (false, ⟨rest, leftover⟩) := by
  rw [takeIf_run]
  exact if_neg (Bool.eq_false_iff.mp h)

/-- A type as an argument, behind which there is no binding and no bound. -/
theorem takes_argument {n : Nat} {ts : List Token} {t : TypeExpr} {shape : Shape}
    (hstarts : Starts ts) (hreads : Reads ts ⟨.ok t, shape⟩) (hn : weights ts < n) :
    Takes (argument (level n)) (.type (.ok t)) ts := by
  intro rest leftover hrest
  have hbegin := hstarts.append rest
  have hequals : peek "=" rest = false := hrest.peek_eq_false rfl (by decide)
  have hcolon : peek ":" rest = false := hrest.peek_eq_false rfl (by decide)
  unfold argument
  rw [tokens_bind, ite_run, ite_run]
  simp only [hbegin.peekLifetime_eq_false, hbegin.peekConstant_eq_false, Bool.false_and,
    Bool.false_eq_true, if_false]
  rw [bind_run (hreads n hn true rest leftover hrest), ite_run]
  split
  · rw [bind_run (takeIf_eq_false hequals), ite_run, if_neg Bool.false_ne_true,
      bind_run (takeIf_eq_false hcolon), ite_run, if_neg Bool.false_ne_true]
    rfl
  · rfl

theorem starts_of_spells {tokens : List (Bool → List Token)} {trees : List TypeExpr}
    (h : List.Forall₂ Spells tokens trees) : ∀ ts ∈ tokens, ∀ joint, Starts (ts joint) :=
  ((List.forall₂_and_left _ _).mp (h.imp fun _ _ hspells => ⟨hspells.starts, hspells⟩)).1

theorem starts_listTokens {tokens : List (Bool → List Token)} (hne : tokens ≠ [])
    (h : ∀ ts ∈ tokens, ∀ joint, Starts (ts joint)) (joint : Bool) :
    Starts (listTokens tokens joint) := by
  obtain ⟨first, rest, rfl⟩ := List.exists_cons_of_ne_nil hne
  have hfirst := h first List.mem_cons_self
  cases rest with
  | nil => exact hfirst joint
  | cons second rest => exact (hfirst true).append _

/-- Arguments in angle brackets. -/
theorem arguments_run {n : Nat} {tokens : List (Bool → List Token)} {args : List TypeExpr}
    (h : List.Forall₂ Spells tokens args) (hn : weights (listTokens tokens true) < n)
    {joint joint' leftover : Bool} {rest : List Token} :
    arguments (level n) ⟨.sign '<' joint :: (listTokens tokens true ++ .sign '>' joint' :: rest),
      leftover⟩ = .ok (args.map fun t => .type (.ok t), ⟨rest, leftover⟩) := by
  have hitems : List.Forall₂ (fun ts found => ∀ joint, weights (ts joint) < n →
      Takes (argument (level n)) found (ts joint)) tokens
      (args.map fun t => .type (.ok t)) := by
    refine List.forall₂_map_right_iff.mpr (h.imp fun ts t hspells joint hweight => ?_)
    obtain ⟨shape, hreads⟩ := hspells.reads
    exact takes_argument (hspells.starts joint) (hreads joint) hweight
  have hstart : ∀ ts ∈ tokens, ∀ joint rest, peek ">" (ts joint ++ rest) = false :=
    fun ts hts joint rest =>
      ((starts_of_spells h ts hts joint).append rest).peek_eq_false rfl (by decide)
  have hopen : take "<" ⟨.sign '<' joint :: (listTokens tokens true ++ .sign '>' joint' :: rest),
      leftover⟩ = .ok ((), ⟨listTokens tokens true ++ .sign '>' joint' :: rest, leftover⟩) := rfl
  have hclose : take ">" ⟨.sign '>' joint' :: rest, leftover⟩ = .ok ((), ⟨rest, leftover⟩) := rfl
  have hlist : separated (argument (level n)) "," (peek ">")
      ⟨listTokens tokens true ++ .sign '>' joint' :: rest, leftover⟩ = _ :=
    separated_run hitems hstart (fun _ => rfl) (.sign (by decide)) rfl hn
  unfold arguments
  rw [bind_run hopen, bind_run hlist, bind_run hclose]
  rfl

/-- A path applied to arguments. -/
theorem spells_applied {rooted : Bool} {before : List String} {last : String}
    {tokens : List (Bool → List Token)} {args : List TypeExpr} {joint : Bool}
    (h : IsPath rooted (before ++ [last])) (hbare : last ∉ bareSegments)
    (hargs : List.Forall₂ Spells tokens args) (hne : args ≠ []) :
    Spells (fun joint' => pathTokens rooted (before ++ [last]) ++
        .sign '<' joint :: (listTokens tokens true ++ [.sign '>' joint']))
      (foldOption (pathText rooted (before ++ [last])) args) where
  starts _ := starts_pathTokens (by simp) h _
  reads := by
    refine ⟨Path.shape ⟨rooted, before.map .bare ++
      [⟨last, some (args.map fun t => .type (.ok t))⟩]⟩, fun joint' => .of_type ?_⟩
    intro n hn plus rest leftover hrest
    have hweight : weights (listTokens tokens true) < n := by
      simp only [weights_append, weights, Token.weight] at hn
      omega
    have hrun : arguments (level n) ⟨.sign '<' joint :: (listTokens tokens true ++
        .sign '>' joint' :: rest), leftover⟩ = _ := arguments_run hargs hweight
    have htokens : tokens ≠ [] := by
      rintro rfl
      exact hne (List.forall₂_nil_left_iff.mp hargs)
    -- what begins like a type does not make a comparison of the angle bracket
    have hbegin := starts_listTokens htokens (starts_of_spells hargs) true
    have hangle : peekArguments false (.sign '<' joint :: (listTokens tokens true ++
        .sign '>' joint' :: rest)) = true := peekArguments_of_starts (hbegin.append _)
    have hlast : segment (level n) false ⟨.word last :: (.sign '<' joint ::
        (listTokens tokens true ++ .sign '>' joint' :: rest)), leftover⟩ = _ :=
      segment_applied (h.all last (by simp)) hbare hangle rfl hrun
    simpa using type_path h hlast hrest fun path => lowerArguments_map path args

/-! ## §4 Tuples, slices and arrays -/

/-- A tuple, from what stands in its parentheses. -/
theorem type_tuple {g : Productions} {plus leftover : Bool} {content rest : List Token}
    {items : List TypeReading} {trees : List TypeExpr}
    (hcontent : parenthesizedContent g ⟨content, leftover⟩ = .ok (.tuple items, ⟨[], leftover⟩))
    (htrees : items.map TypeReading.tree = trees.map .ok) :
    type g plus ⟨.group .paren content :: rest, leftover⟩ =
      .ok (⟨.ok (.node ⟨"()"⟩ trees false), .other⟩, ⟨rest, leftover⟩) := by
  have hparen : type g plus ⟨.group .paren content :: rest, leftover⟩ =
      parenthesizedType g plus ⟨.group .paren content :: rest, leftover⟩ := rfl
  have hlower : lowerTuple items = .ok (.node ⟨"()"⟩ trees false) := by
    rw [lowerTuple, mapM_tree_eq_ok.mpr htrees]
    rfl
  rw [hparen]
  unfold parenthesizedType
  rw [bind_run (inside_run hcontent)]
  dsimp only
  rw [hlower]
  rfl

/-- A slice or an array, from what stands in its brackets. -/
theorem type_bracketed {g : Productions} {plus leftover : Bool} {content rest : List Token}
    {reading : TypeReading}
    (hcontent : bracketed g ⟨content, leftover⟩ = .ok (reading, ⟨[], leftover⟩)) :
    type g plus ⟨.group .bracket content :: rest, leftover⟩ = .ok (reading, ⟨rest, leftover⟩) := by
  have hbracket : type g plus ⟨.group .bracket content :: rest, leftover⟩ =
      inside .bracket (bracketed g) ⟨.group .bracket content :: rest, leftover⟩ := rfl
  rw [hbracket]
  exact inside_run hcontent

/-- The tokens in a group weigh less than the group. -/
theorem weights_content_lt {d : Delimiter} {content : List Token} {n : Nat}
    (h : weights [.group d content] < n + 1) : weights content < n := by
  simp only [weights, Token.weight] at h
  omega

theorem spells_unit : Spells (fun _ => [.group .paren []]) (.node ⟨"()"⟩ [] false) where
  starts _ := .group (by decide)
  reads := ⟨.other, fun _ => .of_type fun _ _ _ _ _ _ => type_tuple rfl rfl⟩

/-- What the tokens of trees are read as. -/
theorem exists_readings {tokens : List (Bool → List Token)} {trees : List TypeExpr}
    (h : List.Forall₂ Spells tokens trees) :
    ∃ items : List TypeReading, items.map TypeReading.tree = trees.map .ok ∧
      List.Forall₂ (fun ts item => ∀ joint, Reads (ts joint) item) tokens items := by
  induction h with
  | nil => exact ⟨[], rfl, .nil⟩
  | @cons ts t tokens trees hspells _ ih =>
    obtain ⟨shape, hreads⟩ := hspells.reads
    obtain ⟨items, htrees, hitems⟩ := ih
    refine ⟨⟨.ok t, shape⟩ :: items, ?_, .cons hreads hitems⟩
    rw [List.map_cons, List.map_cons, htrees]

/-- A tuple of one or more types; of one, it has a comma behind it. -/
theorem spells_tuple {first : Bool → List Token} {tokens : List (Bool → List Token)}
    {trees : List TypeExpr} (h : List.Forall₂ Spells (first :: tokens) trees) :
    Spells (fun _ => [.group .paren (first true ++ .sign ',' false :: listTokens tokens false)])
      (.node ⟨"()"⟩ trees false) where
  starts _ := .group (by decide)
  reads := by
    obtain ⟨items, htrees, hitems⟩ := exists_readings h
    refine ⟨.other, fun _ => .of_type fun n hn plus rest leftover _ => type_tuple ?_ htrees⟩
    obtain ⟨hstart, hstarts⟩ := List.forall_mem_cons.mp (starts_of_spells h)
    have hweight := weights_content_lt hn
    rw [weights_append, weights] at hweight
    cases hitems with
    | @cons _ item _ items hfirst hitems =>
      have hbegin := (hstart true).append (.sign ',' false :: listTokens tokens false)
      have hitem := hfirst true n (by omega) true (.sign ',' false :: listTokens tokens false)
        leftover (.sign (by decide))
      have hmore : separated ((level n).type true) "," List.isEmpty
          ⟨listTokens tokens false ++ [], leftover⟩ = .ok (items, ⟨[], leftover⟩) :=
        separated_run (hitems.imp fun _ _ hreads joint hweight => hreads joint n hweight true)
          (fun ts hts joint rest => ((hstarts ts hts joint).append rest).isEmpty_eq_false)
          (fun _ => rfl) .nil rfl (by omega)
      rw [List.append_nil] at hmore
      have hcomma : takeIf "," ⟨.sign ',' false :: listTokens tokens false, leftover⟩ =
          .ok (true, ⟨listTokens tokens false, leftover⟩) := rfl
      have hquestion : peek "?" (first true ++ .sign ',' false :: listTokens tokens false) =
          false := hbegin.peek_eq_false rfl (by decide)
      unfold parenthesizedContent
      rw [tokens_bind, ite_run, ite_run, ite_run]
      simp only [hbegin.isEmpty_eq_false, hbegin.peekLifetime_eq_false, hquestion,
        Bool.false_eq_true, if_false]
      rw [bind_run hitem, bind_run hcomma, ite_run, if_pos rfl, bind_run hmore]
      rfl

/-- A slice. -/
theorem spells_slice {tokens : Bool → List Token} {t : TypeExpr} (h : Spells tokens t) :
    Spells (fun _ => [.group .bracket (tokens false)]) (.node ⟨"[]"⟩ [t] false) where
  starts _ := .group (by decide)
  reads := by
    obtain ⟨shape, hreads⟩ := h.reads
    refine ⟨.other, fun _ => .of_type fun n hn plus rest leftover _ => type_bracketed ?_⟩
    have hitem := hreads false n (weights_content_lt hn) true [] leftover .nil
    rw [List.append_nil] at hitem
    unfold bracketed
    rw [bind_run hitem, bind_run (takeIf_eq_false rfl)]
    rfl

/-- An array with a decimal length. -/
theorem spells_array {tokens : Bool → List Token} {t : TypeExpr} {length : Nat}
    (h : Spells tokens t) (hlength : length < Nat.pow 2 64) :
    Spells (fun _ => [.group .bracket (tokens true ++
        [.sign ';' false, .literal (.integer length false)])])
      (.node ⟨"[" ++ toString length ++ "]"⟩ [t] false) where
  starts _ := .group (by decide)
  reads := by
    obtain ⟨shape, hreads⟩ := h.reads
    refine ⟨.other, fun _ => .of_type fun n hn plus rest leftover _ => type_bracketed ?_⟩
    have hweight := weights_content_lt hn
    simp only [weights_append, weights, Token.weight] at hweight
    -- the length is an expression of its own, which needs another level
    obtain ⟨n, rfl⟩ : ∃ k, n = k + 1 := ⟨n - 1, by omega⟩
    have hitem := hreads true (n + 1) (by omega) true
      [.sign ';' false, .literal (.integer length false)] leftover (.sign (by decide))
    have hsemicolon : takeIf ";" ⟨[.sign ';' false, .literal (.integer length false)], leftover⟩ =
        .ok (true, ⟨[.literal (.integer length false)], leftover⟩) := rfl
    have hexpr : (level (n + 1)).anyExpr ⟨[.literal (.integer length false)], leftover⟩ =
        .ok (.integer length, ⟨[], leftover⟩) := rfl
    have hlower : lowerArray (.ok t) (.integer length) =
        .ok (.node ⟨"[" ++ toString length ++ "]"⟩ [t] false) := if_pos hlength
    unfold bracketed
    rw [bind_run hitem, bind_run hsemicolon, ite_run, if_pos rfl, bind_run hexpr]
    dsimp only
    rw [hlower]
    rfl

end Surrogates.Grammar
