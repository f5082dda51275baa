/-
Surrogates.Proofs.TypeExpr.RoundTrip — the texts of trees are read back.

`Spelled` says of a tree and tokens that its text becomes the tokens and that
they are read as the tree. The tokens of every normal tree whose lengths fit
are found by induction over the tree, §3, so its text is read back as the tree.
Trees of texts are normal, hence what was read once is read again from its own
text: `parse_render`. Trees with `try` where no text has it are not read back:
`not_round_trip_try`.
-/
import Surrogates.Proofs.Grammar.Reading

namespace Surrogates.TypeExpr

open Grammar Grammar.Scan

/-! ## §1 Texts of heads and arguments -/

theorem renderArgs_eq_map (args : List TypeExpr) : renderArgs args = args.map render := by
  induction args with
  | nil => rfl
  | cons arg args ih => rw [renderArgs, ih, List.map_cons]

/-- A head that begins with no bracket stands before its arguments. -/
theorem renderApplied_of_head {head : String} {args : List String} {c : Char} {cs : List Char}
    (h : head.toList = c :: cs) (hparen : c ≠ '(') (hbracket : c ≠ '[') :
    renderApplied head args =
      if args.isEmpty then head else head ++ "<" ++ ", ".intercalate args ++ ">" := by
  have hunit : head ≠ "()" := by
    rintro rfl
    exact hparen (List.cons.inj h).1.symm
  have hslice : head ≠ "[]" := by
    rintro rfl
    exact hbracket (List.cons.inj h).1.symm
  have harray : head.toList.head? ≠ some '[' := by simpa [h] using hbracket
  unfold renderApplied
  rw [if_neg hunit, if_neg hslice, if_neg harray]

/-- What begins with a digit is not shortened at a bracket. -/
theorem dropWhile_eq_self {c d : Char} {cs : List Char} (hc : c.isDigit = true)
    (hd : d.isDigit = false) : (c :: cs).dropWhile (· == d) = c :: cs := by
  have hne : c ≠ d := ne_of_isDigit hc hd
  exact List.dropWhile_cons_of_neg (by simpa using hne)

/-- Between the brackets of an array's head stands its length. -/
theorem arrayLength_eq (length : Nat) :
    arrayLength ("[" ++ toString length ++ "]") = toString length := by
  have hdigit : ∀ c ∈ (toString length).toList, c.isDigit = true := fun _ =>
    Text.isDigit_of_mem_toString
  have hne := Text.toList_toString_ne_nil length
  have hfront : ("[" ++ toString length ++ "]").toList.dropWhile (· == '[') =
      (toString length).toList ++ [']'] := by
    obtain ⟨c, cs, htext⟩ := List.exists_cons_of_ne_nil hne
    simp only [String.toList_append, htext]
    exact dropWhile_eq_self (hdigit c (htext ▸ List.mem_cons_self)) (by decide)
  have hback : ((toString length).toList ++ [']']).reverse.dropWhile (· == ']') =
      (toString length).toList.reverse := by
    obtain ⟨c, cs, htext⟩ := List.exists_cons_of_ne_nil (List.reverse_ne_nil_iff.mpr hne)
    have hmem : c ∈ (toString length).toList :=
      List.mem_reverse.mp (htext ▸ List.mem_cons_self)
    rw [List.reverse_append, htext]
    exact dropWhile_eq_self (hdigit c hmem) (by decide)
  rw [arrayLength, hfront, hback, List.reverse_reverse, String.ofList_toList]

theorem renderApplied_array (length : Nat) (arg : String) :
    renderApplied ("[" ++ toString length ++ "]") [arg] =
      "[" ++ arg ++ "; " ++ toString length ++ "]" := by
  unfold renderApplied
  rw [if_neg (array_ne_unit length), if_neg (array_ne_slice length), if_pos (by simp),
    arrayLength_eq]
  rfl

/-! ## §2 Texts and their tokens -/

/-- The text of a tree becomes tokens that are read as the tree. -/
structure Spelled (t : TypeExpr) (tokens : Bool → List Token) : Prop where
  lexes : Lexes t.render.toList tokens
  /-- The text begins like a path, a tuple, a slice or an array. -/
  first : ∃ c cs, t.render.toList = c :: cs ∧
    (Text.Identifier.isStart c = true ∨ c ∈ [':', '(', '['])
  spells : Spells tokens t

variable {t : TypeExpr} {tokens : Bool → List Token}

/-- Neither a comment nor a byte order mark begins the text of a tree. -/
theorem Spelled.ne_first (h : Spelled t tokens) {d : Char}
    (hd : Text.Identifier.isStart d = false) (hbracket : d ∉ [':', '(', '[']) :
    t.render.toList.head? ≠ some d := by
  obtain ⟨c, cs, htext, hfirst⟩ := h.first
  rw [htext]
  rintro ⟨⟩
  rcases hfirst with hstart | hmem
  · rw [hd] at hstart
    cases hstart
  · exact hbracket hmem

theorem Spelled.ne_nil (h : Spelled t tokens) : t.render.toList ≠ [] := by
  obtain ⟨c, cs, htext, -⟩ := h.first
  rw [htext]
  exact List.cons_ne_nil c cs

/-- A text whose tokens spell a tree is read as the tree. -/
theorem parse_of_spells {text : String} {c : Char} {cs : List Char} (htext : text.toList = c :: cs)
    (hmark : c ≠ '\uFEFF') (hlexes : Lexes text.toList tokens) (hspells : Spells tokens t) :
    TypeExpr.parse text = .ok t := by
  obtain ⟨shape, hreads⟩ := hspells.reads
  have htokens : tokens? text.toList = some (tokens false) := by
    rw [htext] at hlexes ⊢
    exact hlexes.tokens? hmark
  have htype : typeOf (tokens false) = .ok ⟨.ok t, shape⟩ := by
    have hrun := hreads false _ (Nat.lt_succ_self _) true [] false .nil
    rw [List.append_nil] at hrun
    rw [typeOf, hrun]
  rw [TypeExpr.parse, htokens]
  dsimp only
  rw [htype]

/-- A tree that is spelled is read back. -/
theorem Spelled.parse (h : Spelled t tokens) : parse t.render = .ok t := by
  have hmark : t.render.toList.head? ≠ some '\uFEFF' := h.ne_first (by decide +kernel) (by decide)
  obtain ⟨c, cs, htext, -⟩ := h.first
  rw [htext] at hmark
  exact parse_of_spells htext (fun heq => hmark (congrArg some heq)) h.lexes h.spells

/-! ## §3 Trees -/

/-- Tokens for each of some trees. -/
theorem exists_tokens {args : List TypeExpr} (h : ∀ arg ∈ args, ∃ tokens, Spelled arg tokens) :
    ∃ tokens, List.Forall₂ Spelled args tokens := by
  induction args with
  | nil => exact ⟨[], .nil⟩
  | cons arg args ih =>
    obtain ⟨⟨first, hfirst⟩, hrest⟩ := List.forall_mem_cons.mp h
    obtain ⟨rest, hspelled⟩ := ih hrest
    exact ⟨first :: rest, .cons hfirst hspelled⟩

theorem lexes_args {args : List TypeExpr} {tokens : List (Bool → List Token)}
    (h : List.Forall₂ Spelled args tokens) :
    Lexes (", ".intercalate (renderArgs args)).toList (listTokens tokens) := by
  rw [String.toList_intercalate, renderArgs_eq_map, List.map_map]
  exact lexes_list (List.forall₂_map_left_iff.mpr (h.imp fun _ _ hspelled => hspelled.lexes))

theorem spells_args {args : List TypeExpr} {tokens : List (Bool → List Token)}
    (h : List.Forall₂ Spelled args tokens) : List.Forall₂ Spells tokens args :=
  List.Forall₂.flip (h.imp fun _ _ hspelled => hspelled.spells)

theorem head?_args {arg : TypeExpr} {args : List TypeExpr} (h : arg.render.toList ≠ []) :
    (", ".intercalate (renderArgs (arg :: args))).toList.head? = arg.render.toList.head? := by
  rw [String.toList_intercalate, renderArgs, List.map_cons]
  cases args with
  | nil => rw [renderArgs, List.map_nil, List.intercalate_singleton]
  | cons arg' args =>
    rw [renderArgs, List.map_cons, List.intercalate_cons_cons, List.append_assoc,
      List.head?_append_of_ne_nil _ h]

/-- No comment begins the text of arguments. -/
theorem exists_args_eq {args : List TypeExpr} {tokens : List (Bool → List Token)}
    (h : List.Forall₂ Spelled args tokens) (hne : args ≠ []) :
    ∃ c cs, (", ".intercalate (renderArgs args)).toList = c :: cs ∧ c ≠ '/' := by
  cases h with
  | nil => exact absurd rfl hne
  | @cons arg ts args tokens hspelled _ =>
    have hslash : arg.render.toList.head? ≠ some '/' := hspelled.ne_first (by decide) (by decide)
    obtain ⟨c, cs, htext, -⟩ := hspelled.first
    have hhead : (", ".intercalate (renderArgs (arg :: args))).toList.head? = some c := by
      rw [head?_args (by simp [htext]), htext, List.head?_cons]
    obtain ⟨ds, hlist⟩ := List.head?_eq_some_iff.mp hhead
    refine ⟨c, ds, hlist, ?_⟩
    rintro rfl
    exact hslash (by rw [htext, List.head?_cons])

/-- The text of a path begins with a word or a separator. -/
theorem exists_path_eq {rooted : Bool} {segments : List String} (hne : segments ≠ [])
    (h : IsPath rooted segments) : ∃ c cs, (pathText rooted segments).toList = c :: cs ∧
      (Text.Identifier.isStart c = true ∨ c ∈ [':', '(', '[']) ∧ c ≠ '(' ∧ c ≠ '[' ∧
      Lexes (pathText rooted segments).toList fun _ => pathTokens rooted segments := by
  obtain ⟨c, cs, htext, hc, hlexes⟩ : ∃ c cs, (pathText rooted segments).toList = c :: cs ∧ _ :=
    lexes_path hne fun text htext => (h.all text htext).word
  refine ⟨c, cs, htext, ?_⟩
  rw [htext]
  rcases hc with hstart | rfl
  · exact ⟨.inl hstart, Text.Identifier.ne_of_isStart hstart (by decide),
      Text.Identifier.ne_of_isStart hstart (by decide), hlexes⟩
  · exact ⟨.inr (by decide), by decide, by decide, hlexes⟩

/-- A path to which nothing is applied. -/
theorem spelled_path {rooted : Bool} {before : List String} {last : String}
    (h : IsPath rooted (before ++ [last])) :
    Spelled (.node ⟨pathText rooted (before ++ [last])⟩ [] false)
      fun _ => pathTokens rooted (before ++ [last]) := by
  obtain ⟨c, cs, htext, hfirst, hparen, hbracket, hlexes⟩ := exists_path_eq (by simp) h
  have hrender : render (.node ⟨pathText rooted (before ++ [last])⟩ [] false) =
      pathText rooted (before ++ [last]) := renderApplied_of_head htext hparen hbracket
  refine ⟨?_, ⟨c, cs, ?_, hfirst⟩, spells_path h⟩
  · rw [hrender]
    exact hlexes
  · rw [hrender, htext]

/-- What is written as a path applied to arguments spells what that folds to. -/
theorem exists_tokens_applied {rooted : Bool} {before : List String} {last : String}
    {args : List TypeExpr} (h : IsPath rooted (before ++ [last])) (hbare : last ∉ bareSegments)
    (hargs : ∀ arg ∈ args, ∃ tokens, Spelled arg tokens) (hne : args ≠ []) :
    let text := pathText rooted (before ++ [last]) ++ "<" ++
      ", ".intercalate (renderArgs args) ++ ">"
    ∃ tokens, Lexes text.toList tokens ∧
      (∃ c cs, text.toList = c :: cs ∧
        (Text.Identifier.isStart c = true ∨ c ∈ [':', '(', '['])) ∧
      Spells tokens (foldOption (pathText rooted (before ++ [last])) args) := by
  intro text
  obtain ⟨tokens, hspelled⟩ := exists_tokens hargs
  obtain ⟨d, ds, hlist, hslash⟩ := exists_args_eq hspelled hne
  obtain ⟨c, cs, htext, hfirst, -⟩ := exists_path_eq (by simp) h
  have hlexes := lexes_args hspelled
  rw [hlist] at hlexes
  have happlied : text.toList =
      (pathText rooted (before ++ [last])).toList ++ '<' :: (d :: ds ++ ['>']) := by
    simp [text, hlist]
  have hspells : Spells (fun joint => pathTokens rooted (before ++ [last]) ++
      .sign '<' (isSign d) :: (listTokens tokens true ++ [.sign '>' joint]))
      (foldOption (pathText rooted (before ++ [last])) args) :=
    spells_applied h hbare (spells_args hspelled) hne
  refine ⟨_, ?_, ⟨c, cs ++ '<' :: (d :: ds ++ ['>']), ?_, hfirst⟩, hspells⟩
  · rw [happlied]
    exact lexes_applied (by simp) (fun text htext => (h.all text htext).word) hlexes hslash
  · rw [happlied, htext, List.cons_append]

/-- A path applied to arguments is read as what that folds to. -/
theorem parse_applied {rooted : Bool} {before : List String} {last : String}
    {args : List TypeExpr} (h : IsPath rooted (before ++ [last])) (hbare : last ∉ bareSegments)
    (hargs : ∀ arg ∈ args, ∃ tokens, Spelled arg tokens) (hne : args ≠ []) :
    parse (pathText rooted (before ++ [last]) ++ "<" ++ ", ".intercalate (renderArgs args) ++ ">") =
      .ok (foldOption (pathText rooted (before ++ [last])) args) := by
  obtain ⟨tokens, hlexes, ⟨c, cs, htext, hfirst⟩, hspells⟩ := exists_tokens_applied h hbare hargs hne
  have hmark : c ≠ '\uFEFF' := by
    rcases hfirst with hstart | hmem
    · exact Text.Identifier.ne_of_isStart hstart (by decide +kernel)
    · rintro rfl
      exact absurd hmem (by decide)
  exact parse_of_spells htext hmark hlexes hspells

theorem exists_spelled_applied {rooted : Bool} {before : List String} {last : String}
    {args : List TypeExpr} (h : IsPath rooted (before ++ [last])) (hbare : last ∉ bareSegments)
    (hargs : ∀ arg ∈ args, ∃ tokens, Spelled arg tokens) (hne : args ≠ [])
    (hrender : t.render = pathText rooted (before ++ [last]) ++ "<" ++
      ", ".intercalate (renderArgs args) ++ ">")
    (hfold : foldOption (pathText rooted (before ++ [last])) args = t) :
    ∃ tokens, Spelled t tokens := by
  obtain ⟨tokens, hlexes, hfirst, hspells⟩ := exists_tokens_applied h hbare hargs hne
  rw [← hrender] at hlexes hfirst
  exact ⟨tokens, hlexes, hfirst, hfold ▸ hspells⟩

theorem spelled_unit : Spelled (.node ⟨"()"⟩ [] false) fun _ => [.group .paren []] where
  lexes := lexes_nil.group (by decide) (by decide)
  first := ⟨'(', [')'], rfl, .inr (by decide)⟩
  spells := spells_unit

/-- A tuple. One of a single type is written with a comma, any other like a list. -/
theorem exists_spelled_tuple {args : List TypeExpr}
    (hargs : ∀ arg ∈ args, ∃ tokens, Spelled arg tokens) :
    ∃ tokens, Spelled (.node ⟨"()"⟩ args false) tokens := by
  obtain ⟨tokens, hspelled⟩ := exists_tokens hargs
  match args, tokens, hspelled with
  | [], [], _ => exact ⟨_, spelled_unit⟩
  | [arg], [ts], hspelled@(.cons harg .nil) =>
    have hrender : render (.node ⟨"()"⟩ [arg] false) = "(" ++ arg.render ++ ",)" := rfl
    have htext : (render (.node ⟨"()"⟩ [arg] false)).toList =
        '(' :: (arg.render.toList ++ [','] ++ [')']) := by
      rw [hrender]
      simp
    refine ⟨_, ?_, ⟨'(', _, htext, .inr (by decide)⟩, spells_tuple (spells_args hspelled)⟩
    rw [htext]
    exact lexes_single harg.lexes harg.ne_nil (harg.ne_first (by decide) (by decide))
  | arg :: arg' :: args, ts :: ts' :: tokens, hspelled =>
    have hrender : render (.node ⟨"()"⟩ (arg :: arg' :: args) false) =
        "(" ++ ", ".intercalate (renderArgs (arg :: arg' :: args)) ++ ")" := rfl
    have htext : (render (.node ⟨"()"⟩ (arg :: arg' :: args) false)).toList =
        '(' :: ((", ".intercalate (renderArgs (arg :: arg' :: args))).toList ++ [')']) := by
      rw [hrender, String.toList_append, String.toList_append]
      rfl
    obtain ⟨c, cs, hlist, hslash⟩ := exists_args_eq hspelled (by simp)
    refine ⟨_, ?_, ⟨'(', _, htext, .inr (by decide)⟩, spells_tuple (spells_args hspelled)⟩
    rw [htext]
    exact (lexes_args hspelled).group (by decide) (by simpa [hlist] using hslash)

theorem exists_spelled_slice (h : Spelled t tokens) :
    ∃ tokens, Spelled (.node ⟨"[]"⟩ [t] false) tokens := by
  have hrender : render (.node ⟨"[]"⟩ [t] false) = "[" ++ t.render ++ "]" := rfl
  have htext : (render (.node ⟨"[]"⟩ [t] false)).toList = '[' :: (t.render.toList ++ [']']) := by
    rw [hrender]
    simp
  refine ⟨_, ?_, ⟨'[', _, htext, .inr (by decide)⟩, spells_slice h.spells⟩
  rw [htext]
  exact h.lexes.group (by decide) (h.ne_first (by decide) (by decide))

theorem exists_spelled_array (h : Spelled t tokens) {length : Nat}
    (hlength : length < Nat.pow 2 64) :
    ∃ tokens, Spelled (.node ⟨"[" ++ toString length ++ "]"⟩ [t] false) tokens := by
  have hrender : render (.node ⟨"[" ++ toString length ++ "]"⟩ [t] false) =
      "[" ++ t.render ++ "; " ++ toString length ++ "]" := renderApplied_array length t.render
  have htext : (render (.node ⟨"[" ++ toString length ++ "]"⟩ [t] false)).toList =
      '[' :: (t.render.toList ++ ';' :: ' ' :: (toString length).toList ++ [']']) := by
    rw [hrender]
    simp
  refine ⟨_, ?_, ⟨'[', _, htext, .inr (by decide)⟩, spells_array h.spells hlength⟩
  rw [htext]
  exact lexes_array h.lexes h.ne_nil (h.ne_first (by decide) (by decide)) length

/-- An identifier is a path. -/
theorem isPath_identifier {text : String} (h : IsName text.toList)
    (hidentifier : Grammar.isIdentifier text = true) : IsPath false ([] ++ [text]) where
  all other hother := by
    obtain rfl := List.mem_singleton.mp hother
    exact ⟨.plain h, .inl hidentifier⟩
  first _ := by
    rintro ⟨⟩
    cases hidentifier

theorem isPath_option : IsPath false ([] ++ ["Option"]) :=
  isPath_identifier ⟨'O', ['p', 't', 'i', 'o', 'n'], rfl, by decide,
    List.all_eq_true.mp (by decide)⟩ (by decide)

/-- A nullable tree is an option of the tree that is not. -/
theorem exists_spelled_asNullable {head : TypeName} {args : List TypeExpr}
    (h : Spelled (.node head args false) tokens) :
    ∃ tokens, Spelled (.node head args true) tokens := by
  have hargs : ∀ arg ∈ [node head args false], ∃ tokens, Spelled arg tokens := by
    intro arg harg
    obtain rfl := List.mem_singleton.mp harg
    exact ⟨tokens, h⟩
  refine exists_spelled_applied isPath_option (by decide) hargs (by simp) ?_ rfl
  have hname : pathText false ([] ++ ["Option"]) = "Option" := rfl
  have hlist : ", ".intercalate (renderArgs [node head args false]) =
      render (.node head args false) := by simp [renderArgs]
  rw [hname, hlist]
  rfl

/-- Nothing is folded where the argument, if it is the only one of an option, is
nullable. -/
theorem foldOption_eq_node {head : String} {args : List TypeExpr}
    (h : head ∈ optionNames → ∀ arg, args = [arg] → arg.nullable = true) :
    foldOption head args = .node ⟨head⟩ args false := by
  unfold foldOption
  split
  · next arg =>
    refine if_neg fun hfold => ?_
    simp only [Bool.and_eq_true, List.contains_iff_mem, Bool.not_eq_true'] at hfold
    rw [h hfold.1 arg rfl] at hfold
    cases hfold.2
  · rfl

/-- A normal node over arguments that are spelled. -/
theorem exists_spelled_node {head : String} {args : List TypeExpr}
    (hhead : HeadNormal head args)
    (hfolded : head ∈ optionNames → ∀ arg, args = [arg] → arg.nullable = true)
    (hlength : ∀ length : Nat, head = "[" ++ toString length ++ "]" → length < Nat.pow 2 64)
    (hargs : ∀ arg ∈ args, ∃ tokens, Spelled arg tokens) :
    ∃ tokens, Spelled (.node ⟨head⟩ args false) tokens := by
  cases hhead with
  | @path rooted before last _ hpath hbare =>
    by_cases hne : args = []
    · subst hne
      exact ⟨_, spelled_path hpath⟩
    · -- with arguments the path ends in no keyword, so they are read as its arguments
      obtain ⟨c, cs, htext, -, hparen, hbracket, -⟩ := exists_path_eq (by simp) hpath
      refine exists_spelled_applied hpath (mt hbare hne) hargs hne ?_ (foldOption_eq_node hfolded)
      have hrender : render (.node ⟨pathText rooted (before ++ [last])⟩ args false) = _ :=
        renderApplied_of_head htext hparen hbracket
      rw [hrender]
      refine if_neg ?_
      simpa [renderArgs_eq_map] using hne
  | tuple => exact exists_spelled_tuple hargs
  | slice arg =>
    obtain ⟨tokens, harg⟩ := hargs arg List.mem_cons_self
    exact exists_spelled_slice harg
  | array length arg =>
    obtain ⟨tokens, harg⟩ := hargs arg List.mem_cons_self
    exact exists_spelled_array harg (hlength length rfl)

/-- Every normal tree whose lengths fit is spelled. -/
theorem exists_spelled (t : TypeExpr) (h : t.Normal) (hfits : t.LengthsFit) :
    ∃ tokens, Spelled t tokens := by
  induction t using TypeExpr.induct with
  | node head args nullable ih =>
    obtain ⟨hnode, hnormal⟩ := normal_node.mp h
    obtain ⟨hlength, hmore⟩ := lengthsFit_node.mp hfits
    obtain ⟨tokens, hcore⟩ := exists_spelled_node hnode.head hnode.folded hlength fun arg harg =>
      ih arg harg (hnormal arg harg) (hmore arg harg)
    -- the node that is not nullable is spelled first: a nullable one is written around it
    cases nullable with
    | false => exact ⟨tokens, hcore⟩
    | true => exact exists_spelled_asNullable hcore

/-! ## §4 Reading back -/

/-- The text of a normal tree whose lengths fit is read back as the tree. -/
theorem parse_render {t : TypeExpr} (h : t.Normal) (hfits : t.LengthsFit) :
    parse t.render = .ok t := by
  obtain ⟨tokens, hspelled⟩ := exists_spelled t h hfits
  exact hspelled.parse

/-- The tree of every text is normal and is read back from its own text, and so is
every normal tree whose lengths fit. -/
theorem round_trip :
    (∀ source t, parse source = .ok t → t.Normal ∧ parse t.render = .ok t) ∧
      ∀ t : TypeExpr, t.Normal → t.LengthsFit → parse t.render = .ok t := by
  refine ⟨fun source t hsource => ?_, fun t h hfits => parse_render h hfits⟩
  obtain ⟨hnormal, hfits⟩ := good_parse hsource
  exact ⟨hnormal, parse_render hnormal hfits⟩

/-- An option of an array in a long spelling, and an option that cannot be folded
because its argument is nullable already. -/
theorem round_trip_options :
    (parse "core::option::Option<[::a::B<'x, Option<()>,>; 0x1_0usize]>" =
        .ok (.node ⟨"[16]"⟩ [.node ⟨"::a::B"⟩ [.node ⟨"()"⟩ [] true] false] true) ∧
      parse "Option<[::a::B<Option<()>>; 16]>" =
        .ok (.node ⟨"[16]"⟩ [.node ⟨"::a::B"⟩ [.node ⟨"()"⟩ [] true] false] true)) ∧
    (Normal (.node ⟨"Option"⟩ [.node ⟨"u8"⟩ [] true] false) ∧
      LengthsFit (.node ⟨"Option"⟩ [.node ⟨"u8"⟩ [] true] false) ∧
      parse "Option<Option<u8>>" = .ok (.node ⟨"Option"⟩ [.node ⟨"u8"⟩ [] true] false)) := by
  have hsource : parse "core::option::Option<[::a::B<'x, Option<()>,>; 0x1_0usize]>" =
      .ok (.node ⟨"[16]"⟩ [.node ⟨"::a::B"⟩ [.node ⟨"()"⟩ [] true] false] true) := by
    decide +kernel
  have hshort : render (.node ⟨"[16]"⟩ [.node ⟨"::a::B"⟩ [.node ⟨"()"⟩ [] true] false] true) =
      "Option<[::a::B<Option<()>>; 16]>" := by decide +kernel
  have hinner : IsPath false ([] ++ ["u8"]) :=
    isPath_identifier ⟨'u', ['8'], rfl, by decide, List.all_eq_true.mp (by decide)⟩ (by decide)
  have hnormal : Normal (.node ⟨"Option"⟩ [.node ⟨"u8"⟩ [] true] false) := by
    refine normal_node.mpr ⟨⟨.path isPath_option (by decide), by simp [args, nullable]⟩, ?_⟩
    refine List.forall_mem_singleton.mpr ?_
    exact normal_node.mpr ⟨⟨.path hinner (by decide), nofun⟩, List.forall_mem_nil _⟩
  have hfits : LengthsFit (.node ⟨"Option"⟩ [.node ⟨"u8"⟩ [] true] false) := by
    have hpath : ∀ text, IsPath false ([] ++ [text]) → ∀ length : Nat,
        pathText false [text] = "[" ++ toString length ++ "]" → length < Nat.pow 2 64 :=
      fun _ h length heq =>
        absurd heq (pathText_ne_array (by simp) (fun text htext => (h.all text htext).word) length)
    refine lengthsFit_node.mpr ⟨hpath "Option" isPath_option, List.forall_mem_singleton.mpr ?_⟩
    exact lengthsFit_node.mpr ⟨hpath "u8" hinner, List.forall_mem_nil _⟩
  have hdouble : render (.node ⟨"Option"⟩ [.node ⟨"u8"⟩ [] true] false) =
      "Option<Option<u8>>" := by decide +kernel
  refine ⟨⟨hsource, ?_⟩, hnormal, hfits, ?_⟩
  · rw [← hshort]
    exact (round_trip.1 _ _ hsource).2
  · rw [← hdouble]
    exact round_trip.2 _ hnormal hfits

/-- A path may end in `try`, but is not read with arguments then; and `try` begins a path
only behind a separator. So two trees whose segments are read, neither with an option,
are not read back. -/
theorem not_round_trip_try :
    (parse "a::try" = .ok (.node ⟨"a::try"⟩ [] false) ∧
      parse "u8" = .ok (.node ⟨"u8"⟩ [] false) ∧ "a::try" ∉ optionNames ∧
      render (.node ⟨"a::try"⟩ [.node ⟨"u8"⟩ [] false] false) = "a::try<u8>" ∧
      parse "a::try<u8>" = .error .notAType) ∧
    (parse "::try::a" = .ok (.node ⟨"::try::a"⟩ [] false) ∧
      render (.node ⟨"try::a"⟩ [] false) = "try::a" ∧
      parse "try::a" = .error .notAType) := by
  decide +kernel

end Surrogates.TypeExpr
