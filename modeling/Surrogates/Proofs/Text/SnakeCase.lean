/-
Surrogates.Proofs.Text.SnakeCase — words in snake case.

In snake case every character of a word stands in lower case, perhaps with an
underscore in front (`snakeCaseFrom_cons`), which the first never has
(`snakeCaseFrom_none_cons`). So a word becomes a text of lower case letters, digits
and underscores (`isPlain_of_mem_snakeCase`), and in upper case this is a word again,
without lower case letters: `isWord_upperText_snakeCase`.
Whether an underscore is put before a character depends on the character and its
neighbours in the word alone (`mark_eq`). It follows that no underscore is put beside
another one, and a word in snake case has no capitals and stays as it is:
`snakeCase_of_word`.
-/
import Surrogates.Proofs.TypeName.Simple
import Surrogates.Text.SnakeCase

namespace Surrogates.Text

open Identifier (isWord isWordChar isWordStart)

variable {before : Option Char} {c : Char} {rest cs : List Char} {name : String}

/-! ## §1 Characters -/

/-- A lower case letter of ASCII, a digit or the underscore. -/
def isPlain (c : Char) : Bool :=
  c.isLower || c.isDigit || c == '_'

/-- What holds of the code points below 128 holds of the characters of ASCII. -/
theorem of_ascii {P : Char → Prop} (h : ∀ n < 128, P (Char.ofNat n)) (hc : c.toNat < 128) : P c := by
  simpa using h c.toNat hc

theorem toLower_eq_self (h : c.isUpper = false) : c.toLower = c := by
  have hnot : ¬(c.val ≥ 'A'.val ∧ c.val ≤ 'Z'.val) := of_decide_eq_false h
  exact dif_neg hnot

theorem isPlain_toLower (h : isWordChar c = true) : isPlain c.toLower = true :=
  of_ascii (P := fun c => isWordChar c = true → isPlain c.toLower = true) (by decide)
    (Identifier.toNat_lt_of_isWordChar h) h

theorem isWordChar_of_isPlain (h : isPlain c = true) : isWordChar c = true := by
  have halphanum : c.isAlphanum = (c.isUpper || c.isLower || c.isDigit) := rfl
  simp only [isPlain, isWordChar, halphanum, Bool.or_eq_true] at h ⊢
  rcases h with (h | h) | h <;> simp [h]

theorem isWordChar_toUpper (h : isPlain c = true) :
    isWordChar c.toUpper = true ∧ c.toUpper.isLower = false :=
  of_ascii (P := fun c => isPlain c = true →
      isWordChar c.toUpper = true ∧ c.toUpper.isLower = false) (by decide)
    (Identifier.toNat_lt_of_isWordChar (isWordChar_of_isPlain h)) h

theorem isWordStart_toUpper_toLower (h : isWordStart c = true) :
    isWordStart c.toLower.toUpper = true :=
  of_ascii (P := fun c => isWordStart c = true → isWordStart c.toLower.toUpper = true) (by decide)
    (Identifier.toNat_lt_of_isWordStart h) h

theorem toLower_ne_underscore (h : isWordChar c = true) (hne : c ≠ '_') : c.toLower ≠ '_' :=
  of_ascii (P := fun c => isWordChar c = true → c ≠ '_' → c.toLower ≠ '_') (by decide)
    (Identifier.toNat_lt_of_isWordChar h) h hne

theorem isUpper_eq_false_of_isPlain (h : isPlain c = true) : c.isUpper = false :=
  of_ascii (P := fun c => isPlain c = true → c.isUpper = false) (by decide)
    (Identifier.toNat_lt_of_isWordChar (isWordChar_of_isPlain h)) h

theorem isWordStart_toLower (h : isWordStart c = true) : isWordStart c.toLower = true :=
  of_ascii (P := fun c => isWordStart c = true → isWordStart c.toLower = true) (by decide)
    (Identifier.toNat_lt_of_isWordStart h) h

/-! ## §2 Lower case -/

/-- A character of ASCII stands in lower case, perhaps behind an underscore. -/
theorem snakeCaseFrom_cons (before : Option Char) (rest : List Char) (h : c.toNat < 128) :
    snakeCaseFrom before (c :: rest) =
      (if c.isUpper && beginsWord before rest.head? then ['_'] else []) ++
        c.toLower :: snakeCaseFrom (some c) rest := by
  rw [snakeCaseFrom, LetterCase.isUpper_ascii h, LetterCase.toLower_ascii h]
  cases hupper : c.isUpper with
  | true => simp
  | false => simp [toLower_eq_self hupper]

/-- Nothing stands in front of the first character. -/
theorem snakeCaseFrom_none_cons (rest : List Char) (h : c.toNat < 128) :
    snakeCaseFrom none (c :: rest) = c.toLower :: snakeCaseFrom (some c) rest := by
  have hboundary : (c.isUpper && beginsWord none rest.head?) = false := Bool.and_false _
  rw [snakeCaseFrom_cons _ _ h, hboundary]
  rfl

theorem isPlain_of_mem_snakeCaseFrom (h : ∀ d ∈ cs, isWordChar d = true)
    (hc : c ∈ snakeCaseFrom before cs) : isPlain c = true := by
  induction cs generalizing before with
  | nil => cases hc
  | cons first rest ih =>
    obtain ⟨hfirst, hrest⟩ := List.forall_mem_cons.mp h
    rw [snakeCaseFrom_cons _ _ (Identifier.toNat_lt_of_isWordChar hfirst), List.mem_append] at hc
    rcases hc with hboundary | hc
    · split at hboundary
      · obtain rfl := List.mem_singleton.mp hboundary
        rfl
      · cases hboundary
    · rcases List.mem_cons.mp hc with rfl | hc
      · exact isPlain_toLower hfirst
      · exact ih hrest hc

theorem length_le_snakeCaseFrom (before : Option Char) (h : ∀ d ∈ cs, isWordChar d = true) :
    cs.length ≤ (snakeCaseFrom before cs).length := by
  induction cs generalizing before with
  | nil => exact Nat.zero_le _
  | cons first rest ih =>
    obtain ⟨hfirst, hrest⟩ := List.forall_mem_cons.mp h
    rw [snakeCaseFrom_cons _ _ (Identifier.toNat_lt_of_isWordChar hfirst), List.length_append,
      List.length_cons, List.length_cons]
    have := ih (some first) hrest
    omega

/-- A word in snake case has lower case letters, digits and underscores. -/
theorem isPlain_of_mem_snakeCase (h : isWord name.toList = true) :
    ∀ c ∈ (snakeCase name).toList, isPlain c = true := by
  intro c hc
  rw [snakeCase, String.toList_ofList] at hc
  exact isPlain_of_mem_snakeCaseFrom (TypeName.isWordChar_of_isWord h) hc

/-- A word in snake case begins with the first character of the word in lower case. -/
theorem exists_toList_snakeCase (h : isWord name.toList = true) :
    ∃ first rest, (snakeCase name).toList = first.toLower :: rest ∧ isWordStart first = true ∧
      ∀ c ∈ rest, isPlain c = true := by
  have hplain := isPlain_of_mem_snakeCase h
  cases hname : name.toList with
  | nil =>
    rw [hname] at h
    cases h
  | cons first rest =>
    rw [hname] at h
    obtain ⟨hfirst, -⟩ := (Bool.and_eq_true ..).mp h
    have heq : (snakeCase name).toList = first.toLower :: snakeCaseFrom (some first) rest := by
      rw [snakeCase, String.toList_ofList, hname,
        snakeCaseFrom_none_cons _ (Identifier.toNat_lt_of_isWordStart hfirst)]
    exact ⟨first, _, heq, hfirst, fun c hc => hplain c (heq ▸ List.mem_cons_of_mem _ hc)⟩

theorem length_le_snakeCase (h : isWord name.toList = true) :
    name.toList.length ≤ (snakeCase name).toList.length := by
  rw [snakeCase, String.toList_ofList]
  exact length_le_snakeCaseFrom none (TypeName.isWordChar_of_isWord h)

theorem snakeCase_ne_empty (h : isWord name.toList = true) : snakeCase name ≠ "" := by
  intro hempty
  obtain ⟨first, rest, heq, -⟩ := exists_toList_snakeCase h
  rw [hempty] at heq
  cases heq

/-! ## §3 Upper case -/

theorem toList_upperText {text : String} (h : ∀ c ∈ text.toList, isPlain c = true) :
    (LetterCase.upperText text).toList = text.toList.map Char.toUpper := by
  rw [LetterCase.upperText, String.toList_ofList, List.map_eq_flatMap]
  refine congrArg List.flatten (List.map_congr_left fun c hc => ?_)
  exact LetterCase.toUpper_ascii
    (Identifier.toNat_lt_of_isWordChar (isWordChar_of_isPlain (h c hc)))

/-- A word in snake case is a word in upper case too. -/
theorem isWord_upperText_snakeCase (h : isWord name.toList = true) :
    isWord (LetterCase.upperText (snakeCase name)).toList = true := by
  obtain ⟨first, rest, heq, hfirst, hrest⟩ := exists_toList_snakeCase h
  rw [toList_upperText (isPlain_of_mem_snakeCase h), heq, List.map_cons]
  refine (Bool.and_eq_true ..).mpr
    ⟨isWordStart_toUpper_toLower hfirst, List.all_eq_true.mpr fun c hc => ?_⟩
  obtain ⟨d, hd, rfl⟩ := List.mem_map.mp hc
  exact (isWordChar_toUpper (hrest d hd)).1

theorem isLower_eq_false_of_mem_upperText (h : isWord name.toList = true) :
    ∀ c ∈ (LetterCase.upperText (snakeCase name)).toList, c.isLower = false := by
  have hplain := isPlain_of_mem_snakeCase h
  intro c hc
  rw [toList_upperText hplain] at hc
  obtain ⟨d, hd, rfl⟩ := List.mem_map.mp hc
  exact (isWordChar_toUpper (hplain d hd)).2

theorem length_le_upperText (h : isWord name.toList = true) :
    name.toList.length ≤ (LetterCase.upperText (snakeCase name)).toList.length := by
  rw [toList_upperText (isPlain_of_mem_snakeCase h), List.length_map]
  exact length_le_snakeCase h

/-! ## §4 Where underscores are put -/

/-- Characters in lower case, those that are marked behind an underscore. -/
def spell : List (Bool × Char) → List Char
  | [] => []
  | (mark, c) :: rest => (if mark then ['_'] else []) ++ c.toLower :: spell rest

theorem spell_append (front back : List (Bool × Char)) :
    spell (front ++ back) = spell front ++ spell back := by
  induction front with
  | nil => rfl
  | cons first rest ih => rw [List.cons_append, spell, spell, ih, List.append_assoc, List.cons_append]

/-- The text ends in the last of the characters. -/
theorem getLast?_spell (marked : List (Bool × Char)) :
    (spell marked).getLast? = marked.getLast?.map fun (_, c) => c.toLower := by
  induction marked with
  | nil => rfl
  | cons first rest ih =>
    rw [spell, List.getLast?_append, List.getLast?_cons, ih, List.getLast?_cons]
    cases rest.getLast? <;> rfl

/-- The characters of a name behind a character, those marked at which a word
begins. -/
def marksFrom : Option Char → List Char → List (Bool × Char)
  | _, [] => []
  | before, c :: rest => (c.isUpper && beginsWord before rest.head?, c) :: marksFrom (some c) rest

theorem map_snd_marksFrom (before : Option Char) (cs : List Char) :
    (marksFrom before cs).map Prod.snd = cs := by
  induction cs generalizing before with
  | nil => rfl
  | cons c rest ih => rw [marksFrom, List.map_cons, ih]

theorem snakeCaseFrom_eq_spell (before : Option Char) (h : ∀ d ∈ cs, isWordChar d = true) :
    snakeCaseFrom before cs = spell (marksFrom before cs) := by
  induction cs generalizing before with
  | nil => rfl
  | cons c rest ih =>
    obtain ⟨hc, hrest⟩ := List.forall_mem_cons.mp h
    rw [snakeCaseFrom_cons _ _ (Identifier.toNat_lt_of_isWordChar hc), ih _ hrest, marksFrom, spell]

/-- Marked are the capitals at which a word begins between the neighbours in the
name. -/
theorem mark_eq {mark : Bool} {front back : List (Bool × Char)}
    (h : marksFrom before cs = front ++ (mark, c) :: back) :
    mark = (c.isUpper &&
      beginsWord ((front.getLast?.map Prod.snd).or before) (back.head?.map Prod.snd)) := by
  induction cs generalizing before front with
  | nil => cases front <;> cases h
  | cons first rest ih =>
    rw [marksFrom] at h
    cases front with
    | nil =>
      obtain ⟨hhead, rfl⟩ := List.cons.inj h
      obtain ⟨rfl, rfl⟩ := Prod.mk.inj hhead
      have hafter : (marksFrom (some first) rest).head?.map Prod.snd = rest.head? := by
        rw [← List.head?_map, map_snd_marksFrom]
      rw [hafter]
      rfl
    | cons marked between =>
      obtain ⟨rfl, hrest⟩ := List.cons.inj h
      rw [ih hrest, List.getLast?_cons]
      cases between.getLast? <;> rfl

/-- A word begins behind something, which is no underscore. -/
theorem exists_of_beginsWord {after : Option Char} (h : beginsWord before after = true) :
    ∃ b, before = some b ∧ b ≠ '_' := by
  cases before with
  | none => cases h
  | some b =>
    refine ⟨b, rfl, ?_⟩
    rintro rfl
    cases h

/-- An underscore is put before a capital of a word, neither in front of the word nor
next to another underscore. -/
theorem apart_of_marksFrom {front back : List (Bool × Char)}
    (h : ∀ d ∈ cs, isWordChar d = true) (hsplit : marksFrom none cs = front ++ (true, c) :: back) :
    c.isUpper = true ∧
      snakeCaseFrom none cs = spell front ++ '_' :: c.toLower :: spell back ∧
      (∃ b, (spell front).getLast? = some b ∧ b ≠ '_') ∧ c.toLower ≠ '_' := by
  have hmark := mark_eq hsplit
  rw [Option.or_none] at hmark
  obtain ⟨hupper, hbegins⟩ := (Bool.and_eq_true ..).mp hmark.symm
  obtain ⟨b, hb, hne⟩ := exists_of_beginsWord hbegins
  obtain ⟨last, hlast, rfl⟩ := Option.map_eq_some_iff.mp hb
  have hchars : ∀ d ∈ (front ++ (true, c) :: back).map Prod.snd, isWordChar d = true := by
    rw [← hsplit, map_snd_marksFrom]
    exact h
  have hbefore : isWordChar last.2 = true :=
    hchars _ (List.mem_map_of_mem (List.mem_append_left _ (List.mem_of_getLast? hlast)))
  have hspell : spell (front ++ (true, c) :: back) =
      spell front ++ '_' :: c.toLower :: spell back := spell_append _ _
  have hend : (spell front).getLast? = some last.2.toLower := by
    rw [getLast?_spell, hlast]
    rfl
  have hcapital : c ≠ '_' := by
    rintro rfl
    cases hupper
  exact ⟨hupper, by rw [snakeCaseFrom_eq_spell none h, hsplit, hspell],
    ⟨_, hend, toLower_ne_underscore hbefore hne⟩,
    toLower_ne_underscore (hchars c (by simp)) hcapital⟩

/-! ## §5 Snake case as a normal form -/

/-- A name without capitals is in snake case. -/
theorem snakeCaseFrom_eq_self (before : Option Char)
    (h : ∀ d ∈ cs, LetterCase.isUpper d = false) : snakeCaseFrom before cs = cs := by
  induction cs generalizing before with
  | nil => rfl
  | cons c rest ih =>
    obtain ⟨hc, hrest⟩ := List.forall_mem_cons.mp h
    rw [snakeCaseFrom, hc, ih _ hrest]
    rfl

/-- A word in snake case is a word. -/
theorem isWord_snakeCase (h : isWord name.toList = true) :
    isWord (snakeCase name).toList = true := by
  obtain ⟨first, rest, heq, hfirst, hrest⟩ := exists_toList_snakeCase h
  rw [heq]
  exact (Bool.and_eq_true ..).mpr ⟨isWordStart_toLower hfirst,
    List.all_eq_true.mpr fun c hc => isWordChar_of_isPlain (hrest c hc)⟩

/-- What is a word in snake case stays as it is. -/
theorem snakeCase_snakeCase (h : isWord name.toList = true) :
    snakeCase (snakeCase name) = snakeCase name := by
  have hlower : ∀ c ∈ (snakeCase name).toList, LetterCase.isUpper c = false := fun c hc => by
    have hplain := isPlain_of_mem_snakeCase h c hc
    rw [LetterCase.isUpper_ascii
      (Identifier.toNat_lt_of_isWordChar (isWordChar_of_isPlain hplain))]
    exact isUpper_eq_false_of_isPlain hplain
  rw [snakeCase, snakeCaseFrom_eq_self none hlower, String.ofList_toList]

/-- **Snake case.** A word in snake case is the word in lower case with underscores put
before some of its characters, which are the capitals at which a word begins between
their neighbours. So an underscore is put neither in front of the word nor next to
another one. The result is a word without capitals, which snake case leaves as it is. -/
theorem snakeCase_of_word (h : isWord name.toList = true) :
    (∃ marked : List (Bool × Char), marked.map Prod.snd = name.toList ∧
      (snakeCase name).toList = spell marked ∧
      (∀ front mark c back, marked = front ++ (mark, c) :: back →
        mark = (c.isUpper &&
          beginsWord (front.getLast?.map Prod.snd) (back.head?.map Prod.snd))) ∧
      ∀ front c back, marked = front ++ (true, c) :: back →
        c.isUpper = true ∧
        (snakeCase name).toList = spell front ++ '_' :: c.toLower :: spell back ∧
        (∃ b, (spell front).getLast? = some b ∧ b ≠ '_') ∧ c.toLower ≠ '_') ∧
    isWord (snakeCase name).toList = true ∧
    (∀ c ∈ (snakeCase name).toList, c.isUpper = false) ∧
    snakeCase (snakeCase name) = snakeCase name := by
  have hchars := TypeName.isWordChar_of_isWord h
  have hsnake : (snakeCase name).toList = snakeCaseFrom none name.toList := String.toList_ofList
  refine ⟨⟨marksFrom none name.toList, map_snd_marksFrom none _, ?_, ?_, ?_⟩, isWord_snakeCase h,
    fun c hc => isUpper_eq_false_of_isPlain (isPlain_of_mem_snakeCase h c hc),
    snakeCase_snakeCase h⟩
  · rw [hsnake, snakeCaseFrom_eq_spell none hchars]
  · intro front mark c back hsplit
    rw [mark_eq hsplit, Option.or_none]
  · intro front c back hsplit
    rw [hsnake]
    exact apart_of_marksFrom hchars hsplit

/-- Of a run of capitals the last begins a word if a lower case letter follows, and
behind an underscore none is put. -/
theorem snakeCase_of_word_server :
    isWord "_HTTPServer__V2Old".toList = true ∧
      snakeCase "_HTTPServer__V2Old" = "_http_server__v2_old" ∧
      snakeCase "_http_server__v2_old" = "_http_server__v2_old" := by
  have hword : isWord "_HTTPServer__V2Old".toList = true := by decide
  have hsnake : snakeCase "_HTTPServer__V2Old" = "_http_server__v2_old" := by decide
  obtain ⟨-, -, -, hagain⟩ := snakeCase_of_word hword
  rw [hsnake] at hagain
  exact ⟨hword, hsnake, hagain⟩

end Surrogates.Text
