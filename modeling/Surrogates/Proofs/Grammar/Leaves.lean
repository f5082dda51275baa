/-
Surrogates.Proofs.Grammar.Leaves — words and numbers are read back.

`Ends` says what may stand behind the text of a word or a type: nothing, a
sign of a type or a closing bracket. Before such an end a word is read as that
word (`leaf?_word`), whatever string or number it may begin like, and the
decimal text of a number as that number (`leaf?_number`).
-/
import Surrogates.Proofs.Text.Characters
import Surrogates.Proofs.Text.Decimal
import Surrogates.Proofs.TypeExpr.Normal
import Mathlib.Data.Bool.AllAny

namespace Surrogates.Grammar.Scan

open Text LiteralScan

/-! ## §1 Ends -/

/-- The characters that may stand behind the text of a type or a path. -/
def ends : List Char := [':', '<', '>', ',', ';', ')', ']']

/-- What may stand behind the text of a type or a path: nothing, or certain
signs and closing brackets. -/
def Ends (cs : List Char) : Prop :=
  ∀ c ∈ cs.head?, c ∈ ends

/-- No quote and no hash comes next. -/
def Quiet (cs : List Char) : Prop :=
  ∀ c ∈ cs.head?, c ≠ '"' ∧ c ≠ '\'' ∧ c ≠ '#'

theorem isContinue_eq_false_of_mem_ends : ∀ c ∈ ends, Identifier.isContinue c = false :=
  List.all_iff_forall_prop.mp (by decide)

theorem quiet_append {cs rest : List Char} (hcs : ∀ c ∈ cs, Identifier.isContinue c = true)
    (hrest : Ends rest) : Quiet (cs ++ rest) := by
  have hmarks : ∀ c, Identifier.isContinue c = true → c ≠ '"' ∧ c ≠ '\'' ∧ c ≠ '#' := fun c hc =>
    ⟨Identifier.ne_of_isContinue hc (by decide), Identifier.ne_of_isContinue hc (by decide),
      Identifier.ne_of_isContinue hc (by decide)⟩
  have hends : ∀ c ∈ ends, c ≠ '"' ∧ c ≠ '\'' ∧ c ≠ '#' :=
    List.all_iff_forall_prop.mp (by decide)
  intro c hc
  cases cs with
  | nil => exact hends c (hrest c hc)
  | cons d more =>
    have hdc : d = c := Option.some.inj hc
    exact hmarks c (hcs c (hdc ▸ List.mem_cons_self))

/-! ## §2 Words -/

/-- The part of a word behind its first character, with what follows: neither
now nor behind an `r` does a quote or a hash come next. -/
structure Plain (cs : List Char) : Prop where
  quiet : Quiet cs
  behind_r : ∀ after, cs = 'r' :: after → Quiet after

theorem plain_append {cs rest : List Char} (hcs : ∀ c ∈ cs, Identifier.isContinue c = true)
    (hrest : Ends rest) : Plain (cs ++ rest) := by
  refine ⟨quiet_append hcs hrest, fun after hafter => ?_⟩
  cases cs with
  | nil =>
    have hr : 'r' ∈ ends := hrest 'r' (by rw [← List.nil_append rest, hafter]; rfl)
    exact absurd hr (by decide)
  | cons c more =>
    obtain ⟨rfl, rfl⟩ := List.cons.inj hafter
    exact quiet_append (fun d hd => hcs d (List.mem_cons_of_mem _ hd)) hrest

theorem word?_append {name rest : List Char} (hname : IsName name) (hrest : Ends rest) :
    word? (name ++ rest) = some (name, rest) := by
  obtain ⟨c, more, rfl, hstart, hmore⟩ := hname
  have hstop : rest.takeWhile Identifier.isContinue = [] ∧
      rest.dropWhile Identifier.isContinue = rest := by
    cases rest with
    | nil => exact ⟨rfl, rfl⟩
    | cons d after =>
      have hd := isContinue_eq_false_of_mem_ends d (hrest d rfl)
      simp [hd]
  rw [List.cons_append, word?, if_pos hstart, List.takeWhile_append_of_pos hmore,
    List.dropWhile_append_of_pos hmore, hstop.1, hstop.2, List.append_nil]

/-- A raw string begins with a quote, hashes perhaps in front. -/
theorem raw?_eq_none {content : Content} {cs : List Char}
    (h : ∀ rest, cs.dropWhile (· == '#') ≠ '"' :: rest) : raw? content cs = none := by
  unfold raw?
  split
  · next rest hrest => exact absurd hrest (h rest)
  · rfl

theorem dropWhile_of_quiet {cs : List Char} (h : Quiet cs) :
    ∀ rest, cs.dropWhile (· == '#') ≠ '"' :: rest := by
  intro rest
  cases cs with
  | nil => simp
  | cons c more =>
    obtain ⟨hquote, -, hhash⟩ := h c rfl
    simp [hquote, hhash]

/-- A word is no string. -/
theorem quoted?_eq_none {c : Char} {cs : List Char} (hc : Identifier.isStart c = true)
    (hcs : Plain cs) : quoted? (c :: cs) = none := by
  have hquote : c ≠ '"' := Identifier.ne_of_isStart hc (by decide)
  have htick : c ≠ '\'' := Identifier.ne_of_isStart hc (by decide)
  unfold quoted?
  split
  · next rest h => exact absurd (List.cons.inj h).1 hquote
  · next rest h =>
    obtain ⟨-, rfl⟩ := List.cons.inj h
    rw [raw?_eq_none (dropWhile_of_quiet hcs.quiet), Option.map_none]
  · next rest h =>
    obtain ⟨-, rfl⟩ := List.cons.inj h
    exact absurd rfl (hcs.quiet '"' rfl).1
  · next rest h =>
    obtain ⟨-, rfl⟩ := List.cons.inj h
    rw [raw?_eq_none (dropWhile_of_quiet (hcs.behind_r rest rfl)), Option.map_none]
  · next rest h =>
    obtain ⟨-, rfl⟩ := List.cons.inj h
    exact absurd rfl (hcs.quiet '"' rfl).1
  · next rest h =>
    obtain ⟨-, rfl⟩ := List.cons.inj h
    rw [raw?_eq_none (dropWhile_of_quiet (hcs.behind_r rest rfl)), Option.map_none]
  · next rest h =>
    obtain ⟨-, rfl⟩ := List.cons.inj h
    exact absurd rfl (hcs.quiet '\'' rfl).2.1
  · next rest h => exact absurd (List.cons.inj h).1 htick
  · rfl

theorem isDigitOf_ten {c : Char} : isDigitOf 10 c = c.isDigit := by
  unfold isDigitOf digitValue
  cases h : c.isDigit with
  | true =>
    simp only [Char.isDigit, Bool.and_eq_true, decide_eq_true_eq] at h
    have hle : c.toNat ≤ 57 := UInt32.le_iff_toNat_le.mp h.2
    simp only [Bool.true_or, Bool.true_and, if_true, decide_eq_true_eq]
    show c.toNat - 48 < 10
    omega
  | false =>
    simp only [Bool.false_or, Bool.false_eq_true, if_false, Bool.and_eq_false_imp,
      decide_eq_false_iff_not, Nat.not_lt]
    intro _
    split <;> omega

/-- A word is no number. -/
theorem number_eq_none {c : Char} {cs : List Char} (hc : Identifier.isStart c = true) :
    float? (c :: cs) = none ∧ integer? (c :: cs) = none := by
  have hdigit := Identifier.isDigit_eq_false_of_isStart hc
  have hzero : c ≠ '0' := Identifier.ne_of_isStart hc (by decide)
  have hbase : integerBase (c :: cs) = (10, c :: cs) := by
    unfold integerBase
    split
    · next h => exact absurd (List.cons.inj h).1 hzero
    · next h => exact absurd (List.cons.inj h).1 hzero
    · next h => exact absurd (List.cons.inj h).1 hzero
    · rfl
  refine ⟨by simp [float?, hdigit], ?_⟩
  unfold integer?
  rw [hbase]
  by_cases hline : c = '_'
  · simp [hline]
  · simp [isDigitOf_ten, hdigit, hline]

theorem scan?_eq_none {c : Char} {cs : List Char} (hc : Identifier.isStart c = true)
    (hquoted : quoted? (c :: cs) = none) : scan? (c :: cs) = none := by
  rw [scan?, hquoted]
  simp only [(number_eq_none hc).1, (number_eq_none hc).2]

/-- A word begins no literal, not even a faulty one. -/
theorem literalStarts_eq_false {c : Char} {cs : List Char} (hcs : Plain cs) :
    literalStarts.any (·.isPrefixOf (c :: cs)) = false := by
  cases cs with
  | nil => simp [literalStarts, List.isPrefixOf]
  | cons d more =>
    obtain ⟨hquote, htick, hhash⟩ := hcs.quiet d rfl
    by_cases hr : d = 'r'
    · -- the faulty literals that have an `r` there have a quote or a hash next
      have hmore := hcs.behind_r more (by rw [hr])
      cases more with
      | nil => simp [literalStarts, List.isPrefixOf, hquote.symm, htick.symm]
      | cons e rest =>
        obtain ⟨hquote', -, hhash'⟩ := hmore e rfl
        simp [literalStarts, List.isPrefixOf, hquote.symm, htick.symm, hhash.symm, hquote'.symm,
          hhash'.symm]
    · simp [literalStarts, List.isPrefixOf, hquote.symm, htick.symm, hhash.symm, Ne.symm hr]

theorem isSign_eq_false_of_isStart {c : Char} (hc : Identifier.isStart c = true) :
    isSign c = false := by
  have hsigns : ∀ d ∈ "~!@#$%^&*-=+|;:,<.>/?'".toList, Identifier.isStart d = false :=
    List.all_iff_forall_prop.mp (by decide)
  cases h : isSign c with
  | false => rfl
  | true => exact absurd hc (by rw [hsigns c (List.contains_iff_mem.mp h)]; decide)

theorem startsSign_eq_false_of_isStart {c : Char} {cs : List Char}
    (hc : Identifier.isStart c = true) : startsSign (c :: cs) = false := by
  unfold startsSign
  split
  · rfl
  · rfl
  · next h =>
    obtain ⟨rfl, -⟩ := List.cons.inj h
    exact isSign_eq_false_of_isStart hc
  · rfl

/-- What begins like an identifier and is no literal is a word. -/
theorem leaf?_eq_anyWord? {c : Char} {cs : List Char} (hc : Identifier.isStart c = true)
    (hquoted : quoted? (c :: cs) = none)
    (hfaulty : literalStarts.any (·.isPrefixOf (c :: cs)) = false) :
    leaf? (c :: cs) = anyWord? (c :: cs) := by
  have htick : c ≠ '\'' := Identifier.ne_of_isStart hc (by decide)
  have hparen : c ≠ '(' := Identifier.ne_of_isStart hc (by decide)
  have hknown : unknownToken.isPrefixOf (c :: cs) = false := by
    show ('(' == c && "/*ERROR*/)".toList.isPrefixOf cs) = false
    rw [beq_eq_false_iff_ne.mpr hparen.symm, Bool.false_and]
  unfold leaf?
  rw [scan?_eq_none hc hquoted]
  dsimp only
  split
  · next h => exact absurd (List.cons.inj h).1 htick
  · next h =>
    obtain ⟨rfl, rfl⟩ := List.cons.inj h
    rw [startsSign_eq_false_of_isStart hc, hknown, identifier?, hfaulty]
    rfl
  · next h => cases h

/-- A word and what is behind it. -/
theorem leaf?_word {text : String} {rest : List Char} (hword : IsWord text) (hrest : Ends rest) :
    leaf? (text.toList ++ rest) = some (.word text, rest) := by
  cases hword with
  | plain hname =>
    have hread := word?_append hname hrest
    obtain ⟨c, more, htext, hstart, hmore⟩ := hname
    rw [htext] at hread ⊢
    have hplain := plain_append hmore hrest
    rw [List.cons_append] at hread ⊢
    rw [leaf?_eq_anyWord? hstart (quoted?_eq_none hstart hplain)
      (literalStarts_eq_false hplain)]
    unfold anyWord?
    split
    · next h =>
      rw [(List.cons.inj h).2] at hplain
      exact absurd rfl (hplain.quiet '#' rfl).2.2
    · rw [hread, Option.map_some, ← htext]
      dsimp only
      rw [String.ofList_toList]
  | @raw name hname hraw =>
    have hread := word?_append hname hrest
    obtain ⟨c, more, htext, hstart, hmore⟩ := hname
    have hquote : c ≠ '"' := Identifier.ne_of_isStart hstart (by decide)
    have hhash : c ≠ '#' := Identifier.ne_of_isStart hstart (by decide)
    have htexts : ("r#" ++ name).toList ++ rest = 'r' :: '#' :: (name.toList ++ rest) := by
      simp
    have hquoted : quoted? ('r' :: '#' :: (name.toList ++ rest)) = none := by
      show (raw? .text ('#' :: (name.toList ++ rest))).map (Literal.text, ·) = none
      rw [raw?_eq_none, Option.map_none]
      simp [htext, hhash, hquote]
    rw [htexts, leaf?_eq_anyWord? (by decide) hquoted
      (by simp [literalStarts, List.isPrefixOf, htext, hquote.symm, hhash.symm])]
    show (word? (name.toList ++ rest)).bind _ = _
    rw [hread, Option.bind_some]
    dsimp only
    rw [String.ofList_toList, if_neg (by simpa using hraw)]

/-! ## §3 Numbers -/

theorem ne_of_isDigit {c d : Char} (h : c.isDigit = true) (hd : d.isDigit = false) : c ≠ d := by
  rintro rfl
  rw [h] at hd
  cases hd

/-- Before an end no part of a number goes on. -/
theorem Ends.stop {cs : List Char} (h : Ends cs) :
    cs.takeWhile isDecimal = [] ∧ cs.dropWhile isDecimal = cs ∧
      (cs.head?.map Char.isDigit).getD false = false ∧ word? cs = none ∧
      endNumber? cs = some cs := by
  have hends : ∀ c ∈ ends, isDecimal c = false ∧ c.isDigit = false ∧
      Identifier.isStart c = false ∧ Identifier.isContinue c = false :=
    List.all_iff_forall_prop.mp (by decide)
  cases cs with
  | nil => exact ⟨rfl, rfl, rfl, rfl, rfl⟩
  | cons c more =>
    obtain ⟨hdecimal, hdigit, hstart, hcontinue⟩ := hends c (h c rfl)
    have hword : word? (c :: more) = none := by rw [word?, hstart]; rfl
    refine ⟨by simp [hdecimal], by simp [hdecimal], by simp [hdigit], hword, ?_⟩
    rw [endNumber?, dropSuffix, hword]
    dsimp only
    rw [hcontinue]
    rfl

/-- Digits are no string. -/
theorem quoted?_digit {c : Char} {cs : List Char} (hc : c.isDigit = true) :
    quoted? (c :: cs) = none := by
  have hne : ∀ d, d.isDigit = false → ∀ {rest}, c :: cs = d :: rest → False :=
    fun d hd _ h => ne_of_isDigit hc hd (List.cons.inj h).1
  unfold quoted?
  split
  · next h => exact (hne _ (by decide) h).elim
  · next h => exact (hne _ (by decide) h).elim
  · next h => exact (hne _ (by decide) h).elim
  · next h => exact (hne _ (by decide) h).elim
  · next h => exact (hne _ (by decide) h).elim
  · next h => exact (hne _ (by decide) h).elim
  · next h => exact (hne _ (by decide) h).elim
  · next h => exact (hne _ (by decide) h).elim
  · rfl

/-- Digits before an end have no point and no exponent. -/
theorem float?_digits {digits rest : List Char} (hdigits : ∀ c ∈ digits, c.isDigit = true)
    (hrest : Ends rest) : float? (digits ++ rest) = none := by
  have hdecimal : ∀ c ∈ digits, isDecimal c = true := fun c hc => by
    rw [isDecimal, hdigits c hc, Bool.true_or]
  have hends : ∀ c ∈ ends, c ≠ '.' ∧ c ≠ 'e' ∧ c ≠ 'E' := List.all_iff_forall_prop.mp (by decide)
  cases hcs : digits ++ rest with
  | nil => rfl
  | cons c more =>
    unfold float?
    dsimp only
    split
    · rw [← hcs, List.dropWhile_append_of_pos hdecimal, hrest.stop.2.1]
      split
      · exact absurd rfl (hends '.' (hrest '.' rfl)).1
      · next e after _ =>
        obtain ⟨-, he, hE⟩ := hends e (hrest e rfl)
        simp [he, hE]
      · rfl
    · rfl

/-- The digits of a base have no prefix of another. -/
theorem integerBase_digits {digits rest : List Char} (hdigits : ∀ c ∈ digits, c.isDigit = true)
    (hne : digits ≠ []) (hrest : Ends rest) :
    integerBase (digits ++ rest) = (10, digits ++ rest) := by
  have hends : ∀ c ∈ ends, c ≠ 'x' ∧ c ≠ 'o' ∧ c ≠ 'b' := List.all_iff_forall_prop.mp (by decide)
  have hdigit : ∀ c, c.isDigit = true → c ≠ 'x' ∧ c ≠ 'o' ∧ c ≠ 'b' := fun c hc =>
    ⟨ne_of_isDigit hc (by decide), ne_of_isDigit hc (by decide), ne_of_isDigit hc (by decide)⟩
  -- the second character is a digit or an end, and so no letter
  have hsecond : ∀ c d more, digits ++ rest = c :: d :: more → d ≠ 'x' ∧ d ≠ 'o' ∧ d ≠ 'b' := by
    intro c d more h
    match digits, hne with
    | [_], _ =>
      obtain ⟨-, rfl⟩ := List.cons.inj h
      exact hends d (hrest d rfl)
    | _ :: e :: _, _ =>
      obtain ⟨-, h⟩ := List.cons.inj h
      obtain ⟨rfl, -⟩ := List.cons.inj h
      exact hdigit e (hdigits e (by simp))
  unfold integerBase
  split
  · next h => exact absurd rfl (hsecond _ _ _ h).1
  · next h => exact absurd rfl (hsecond _ _ _ h).2.1
  · next h => exact absurd rfl (hsecond _ _ _ h).2.2
  · rfl

theorem natOfDigits_toString (n : Nat) : natOfDigits 10 (toString n).toList = n := by
  have hfold : ∀ (digits : List Char) (value : Nat), (∀ c ∈ digits, c.isDigit = true) →
      digits.foldl (fun n c => n * 10 + digitValue c) value = Nat.ofDigitChars 10 digits value := by
    intro digits
    induction digits with
    | nil => exact fun _ _ => rfl
    | cons c more ih =>
      intro value hdigits
      have hc : digitValue c = c.toNat - '0'.toNat := by
        rw [digitValue, if_pos (hdigits c List.mem_cons_self)]
      rw [List.foldl_cons, hc, ih _ fun d hd => hdigits d (List.mem_cons_of_mem _ hd), Nat.mul_comm]
      rfl
  rw [natOfDigits, hfold _ _ fun _ => isDigit_of_mem_toString, toList_toString]
  exact Nat.ofDigitChars_ten_toDigits

/-- Digits before an end are an integer. -/
theorem integer?_digits {digits rest : List Char} (hdigits : ∀ c ∈ digits, c.isDigit = true)
    (hne : digits ≠ []) (hrest : Ends rest) :
    integer? (digits ++ rest) = some (.integer (natOfDigits 10 digits) false, rest) := by
  obtain ⟨htake, hdrop, hhead, hword, hend⟩ := hrest.stop
  have hdecimal : ∀ c ∈ digits, isDecimal c = true := fun c hc => by
    rw [isDecimal, hdigits c hc, Bool.true_or]
  have hline : ∀ c ∈ digits, c ≠ '_' := fun c hc => ne_of_isDigit (hdigits c hc) (by decide)
  have htest : (fun c => isDigitOf 10 c || c == '_') = isDecimal := by
    funext c
    rw [isDigitOf_ten, isDecimal]
  have hvalues : digits.filter (· != '_') = digits :=
    List.filter_eq_self.mpr fun c hc => bne_iff_ne.mpr (hline c hc)
  have hempty : digits.isEmpty = false := by simpa using hne
  have hfirst : (digits.head? == some '_') = false := by
    cases digits with
    | nil => rfl
    | cons c more => simpa using hline c List.mem_cons_self
  unfold integer?
  rw [integerBase_digits hdigits hne hrest]
  dsimp only
  rw [htest, List.takeWhile_append_of_pos hdecimal, List.dropWhile_append_of_pos hdecimal, htake,
    hdrop, List.append_nil, hvalues, hempty, hfirst, hhead, hend, hword]
  rfl

/-- The decimal text of a number and what is behind it. -/
theorem leaf?_number {n : Nat} {rest : List Char} (hrest : Ends rest) :
    leaf? ((toString n).toList ++ rest) = some (.literal (.integer n false), rest) := by
  have hdigits : ∀ c ∈ (toString n).toList, c.isDigit = true := fun _ => isDigit_of_mem_toString
  have hinteger := integer?_digits hdigits (toList_toString_ne_nil n) hrest
  have hfloat := float?_digits hdigits hrest
  obtain ⟨c, more, htext⟩ := List.exists_cons_of_ne_nil (toList_toString_ne_nil n)
  have hquoted : quoted? ((toString n).toList ++ rest) = none := by
    rw [htext]
    exact quoted?_digit (hdigits c (htext ▸ List.mem_cons_self))
  rw [leaf?.eq_def, scan?, hquoted]
  dsimp only
  rw [hfloat, hinteger, natOfDigits_toString]

end Surrogates.Grammar.Scan
