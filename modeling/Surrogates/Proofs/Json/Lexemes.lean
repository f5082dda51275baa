/-
Surrogates.Proofs.Json.Lexemes — the lexemes of texts that are written.

`Lexes` says that a text becomes certain lexemes wherever the scan comes to it, whatever
follows. A string becomes one lexeme with the same characters, since each escape gives
back the code of its character (`scanCodes_escapeChar`). From this the lexemes of a value
that holds no numbers are found in both of its texts, the one without blanks and the one
on lines: `scan_render`, `scan_pretty`.
-/
import Surrogates.Json.Lexeme
import Surrogates.Json.Writer

namespace Surrogates.Json

/-! ## §1 Strings -/

namespace Lexeme

theorem hexDigit?_hexChar {n : Nat} (h : n < 16) : hexDigit? (hexChar n) = some n := by
  have hall : ∀ n < 16, hexDigit? (hexChar n) = some n := by decide
  exact hall n h

/-- A character that is no quote, no backslash and no control character stands for
itself. -/
theorem scanCodes_cons {c : Char} (rest : List Char) (hquote : c ≠ '"') (hbackslash : c ≠ '\\')
    (hcontrol : ¬c.toNat < 0x20) :
    scanCodes (c :: rest) = (scanCodes rest).map fun (codes, after) => (c.toNat :: codes, after) := by
  rw [scanCodes.eq_def]
  split
  · next h => cases h
  · next h => exact absurd (List.cons.inj h).1 hquote
  · next h => exact absurd (List.cons.inj h).1 hbackslash
  · next h => exact absurd (List.cons.inj h).1 hbackslash
  · next h =>
    obtain ⟨rfl, rfl⟩ := List.cons.inj h
    rw [if_neg (not_or.mpr ⟨hcontrol, hbackslash⟩)]
    cases scanCodes rest <;> rfl

/-- A control character is written by the two digits of its code. -/
theorem scanCodes_control {n : Nat} (h : n < 0x20) (rest : List Char) :
    scanCodes ('\\' :: 'u' :: '0' :: '0' :: hexChar (n / 16) :: hexChar (n % 16) :: rest) =
      (scanCodes rest).map fun (codes, after) => (n :: codes, after) := by
  have hzero : hexDigit? '0' = some 0 := by decide
  have hcode : ((0 * 16 + 0) * 16 + n / 16) * 16 + n % 16 = n := by omega
  rw [scanCodes, hzero, hexDigit?_hexChar (by omega), hexDigit?_hexChar (by omega)]
  simp only [Option.bind_eq_bind, Option.bind_some, hcode]
  cases scanCodes rest <;> rfl

/-- A letter that is escaped gives its code. -/
theorem scanCodes_escape {e : Char} {code : Nat} (rest : List Char) (hescape : escape? e = some code)
    (hne : e ≠ 'u') :
    scanCodes ('\\' :: e :: rest) =
      (scanCodes rest).map fun (codes, after) => (code :: codes, after) := by
  rw [scanCodes.eq_def]
  split
  · next h => cases h
  · next h => cases h
  · next h => exact absurd (List.cons.inj (List.cons.inj h).2).1 hne
  · next h =>
    cases h
    rw [hescape]
    cases scanCodes rest <;> rfl
  · next hnot h =>
    cases h
    exact (hnot e rest rfl rfl).elim

/-- The ways in which a character stands in a string: behind a backslash as a letter,
by two digits, and as it is. -/
theorem escapeChar_cases (c : Char) :
    (∃ e, escapeChar c = ['\\', e] ∧ escape? e = some c.toNat ∧ e ≠ 'u') ∨
      (escapeChar c =
          ['\\', 'u', '0', '0', hexChar (c.toNat / 16), hexChar (c.toNat % 16)] ∧ c.toNat < 0x20) ∨
      (escapeChar c = [c] ∧ c ≠ '"' ∧ c ≠ '\\' ∧ ¬c.toNat < 0x20) := by
  unfold escapeChar
  by_cases hquote : c = '"'
  · exact .inl ⟨'"', by simp [hquote], by rw [hquote]; rfl, by decide⟩
  by_cases hbackslash : c = '\\'
  · exact .inl ⟨'\\', by simp [hbackslash], by rw [hbackslash]; rfl, by decide⟩
  by_cases hback : c.toNat = 0x08
  · exact .inl ⟨'b', by simp [hquote, hbackslash, hback], by rw [hback]; rfl, by decide⟩
  by_cases hfeed : c.toNat = 0x0C
  · exact .inl ⟨'f', by simp [hquote, hbackslash, hfeed], by rw [hfeed]; rfl, by decide⟩
  by_cases hline : c = '\n'
  · exact .inl ⟨'n', by simp [hline], by rw [hline]; rfl, by decide⟩
  by_cases hreturn : c = '\r'
  · exact .inl ⟨'r', by simp [hreturn], by rw [hreturn]; rfl, by decide⟩
  by_cases htab : c = '\t'
  · exact .inl ⟨'t', by simp [htab], by rw [htab]; rfl, by decide⟩
  rw [if_neg hquote, if_neg hbackslash, if_neg hback, if_neg hfeed, if_neg hline, if_neg hreturn,
    if_neg htab]
  by_cases hcontrol : c.toNat < 0x20
  · exact .inr (.inl ⟨if_pos hcontrol, hcontrol⟩)
  · exact .inr (.inr ⟨if_neg hcontrol, hquote, hbackslash, hcontrol⟩)

/-- A character as it stands in a string is read as its code. -/
theorem scanCodes_escapeChar (c : Char) (rest : List Char) :
    scanCodes (escapeChar c ++ rest) =
      (scanCodes rest).map fun (codes, after) => (c.toNat :: codes, after) := by
  rcases escapeChar_cases c with ⟨e, heq, hescape, hne⟩ | ⟨heq, hcontrol⟩ |
    ⟨heq, hquote, hbackslash, hcontrol⟩
  · exact heq ▸ scanCodes_escape rest hescape hne
  · exact heq ▸ scanCodes_control hcontrol rest
  · exact heq ▸ scanCodes_cons rest hquote hbackslash hcontrol

/-- The characters of a string are read as their codes, up to the quote. -/
theorem scanCodes_escaped (cs rest : List Char) :
    scanCodes (cs.flatMap escapeChar ++ '"' :: rest) = some (cs.map Char.toNat, rest) := by
  induction cs with
  | nil => rw [List.flatMap_nil, List.nil_append, scanCodes]; rfl
  | cons c cs ih =>
    rw [List.flatMap_cons, List.append_assoc, scanCodes_escapeChar, ih]
    rfl

theorem isHigh_toNat (c : Char) : isHigh c.toNat = false ∧ isLow c.toNat = false := by
  have hvalid : c.toNat < 0xD800 ∨ 0xDFFF < c.toNat ∧ c.toNat < 0x110000 := c.valid
  simp only [isHigh, isLow, Bool.and_eq_false_iff, decide_eq_false_iff_not]
  omega

/-- No character has the code of a surrogate. -/
theorem decodeCodes_map_toNat (cs : List Char) : decodeCodes (cs.map Char.toNat) = some cs := by
  induction cs with
  | nil => rfl
  | cons c cs ih =>
    obtain ⟨hhigh, hlow⟩ := isHigh_toNat c
    cases cs with
    | nil => simp [decodeCodes, hhigh, hlow]
    | cons d cs =>
      rw [List.map_cons] at ih
      rw [List.map_cons, List.map_cons, decodeCodes, hhigh, hlow, ih]
      simp

theorem scanString_escaped (text : String) (rest : List Char) :
    scanString (text.toList.flatMap escapeChar ++ '"' :: rest) =
      some (.string (some text), rest) := by
  rw [scanString, scanCodes_escaped]
  simp [decodeCodes_map_toNat]

/-! ## §2 Texts and their lexemes -/

/-- Wherever the scan comes to a text, it reads the lexemes, whatever follows. -/
def Lexes (text : List Char) (lexemes : List Lexeme) : Prop :=
  ∀ rest fuel, (text ++ rest).length ≤ fuel →
    ∃ fuel', rest.length ≤ fuel' ∧
      scanWithin fuel (text ++ rest) = lexemes ++ scanWithin fuel' rest

theorem lexes_nil : Lexes [] [] :=
  fun _ fuel hfuel => ⟨fuel, hfuel, rfl⟩

theorem Lexes.append {before after : List Char} {first second : List Lexeme}
    (hbefore : Lexes before first) (hafter : Lexes after second) :
    Lexes (before ++ after) (first ++ second) := by
  intro rest fuel hfuel
  obtain ⟨fuel₁, hfuel₁, hfirst⟩ := hbefore (after ++ rest) fuel (by simpa using hfuel)
  obtain ⟨fuel₂, hfuel₂, hsecond⟩ := hafter rest fuel₁ hfuel₁
  refine ⟨fuel₂, hfuel₂, ?_⟩
  rw [List.append_assoc, hfirst, hsecond, List.append_assoc]

theorem Lexes.append_text {before after : String} {first second : List Lexeme}
    (hbefore : Lexes before.toList first) (hafter : Lexes after.toList second) :
    Lexes (before ++ after).toList (first ++ second) := by
  rw [String.toList_append]
  exact hbefore.append hafter

/-- A text that is read as one lexeme. -/
theorem lexes_next {c : Char} {cs : List Char} {lexeme : Lexeme} (hblank : isBlank c = false)
    (hnext : ∀ rest, next? (c :: (cs ++ rest)) = some (lexeme, rest)) :
    Lexes (c :: cs) [lexeme] := by
  intro rest fuel hfuel
  obtain ⟨fuel, rfl⟩ : ∃ k, fuel = k + 1 := ⟨fuel - 1, by simp at hfuel; omega⟩
  refine ⟨fuel, by simp at hfuel; omega, ?_⟩
  rw [List.cons_append, scanWithin, hblank, hnext]
  rfl

theorem lexes_blank {c : Char} (hblank : isBlank c = true) : Lexes [c] [] := by
  intro rest fuel hfuel
  obtain ⟨fuel, rfl⟩ : ∃ k, fuel = k + 1 := ⟨fuel - 1, by simp at hfuel; omega⟩
  refine ⟨fuel, by simpa using hfuel, ?_⟩
  rw [List.singleton_append, scanWithin, hblank]
  rfl

theorem lexes_blanks {cs : List Char} (h : ∀ c ∈ cs, isBlank c = true) : Lexes cs [] := by
  induction cs with
  | nil => exact lexes_nil
  | cons c cs ih =>
    obtain ⟨hc, hcs⟩ := List.forall_mem_cons.mp h
    exact (lexes_blank hc).append (ih hcs)

theorem lexes_string (text : String) :
    Lexes (renderString text).toList [.string (some text)] := by
  rw [renderString, String.toList_ofList]
  refine lexes_next (by decide) fun rest => ?_
  have hscan := scanString_escaped text rest
  simpa [next?] using hscan

theorem lexes_newline (depth : Nat) : Lexes (newline depth).toList [] := by
  refine lexes_blanks fun c hc => ?_
  rw [newline, String.toList_append, List.mem_append] at hc
  rcases hc with hc | hc
  · obtain rfl : c = '\n' := by simpa using hc
    decide
  · rw [String.toList_ofList] at hc
    obtain rfl := List.eq_of_mem_replicate hc
    decide

/-- A text that begins the scan is read to its end. -/
theorem Lexes.scan_eq {text : String} {lexemes : List Lexeme} (h : Lexes text.toList lexemes) :
    scan text = lexemes := by
  obtain ⟨fuel, -, hscan⟩ := h [] text.toList.length (by simp)
  have hend : scanWithin fuel [] = [] := by cases fuel <;> rfl
  rw [List.append_nil, hend, List.append_nil] at hscan
  exact hscan

end Lexeme

/-! ## §3 Values -/

open Lexeme (Lexes lexes_nil lexes_next lexes_blank lexes_string lexes_newline)

/-- A value that holds no numbers. -/
inductive Numberless : Json → Prop where
  | null : Numberless .null
  | bool (value : Bool) : Numberless (.bool value)
  | string (value : String) : Numberless (.string value)
  | array (items : List Json) (hitems : ∀ item ∈ items, item.Numberless) :
      Numberless (.array items)
  | object (members : List (String × Json)) (hmembers : ∀ member ∈ members, member.2.Numberless) :
      Numberless (.object members)

mutual

/-- The lexemes of a value. -/
def lexemes : Json → List Lexeme
  | null => [.null]
  | bool value => [.bool value]
  | number n => Lexeme.scan n.render
  | string s => [.string (some s)]
  | array items => .openBracket :: (lexemesOfItems items ++ [.closeBracket])
  | object members => .openBrace :: (lexemesOfMembers members ++ [.closeBrace])

/-- The lexemes of items with commas between them. -/
def lexemesOfItems : List Json → List Lexeme
  | [] => []
  | [item] => item.lexemes
  | item :: rest => item.lexemes ++ .comma :: lexemesOfItems rest

/-- The lexemes of members with commas between them. -/
def lexemesOfMembers : List (String × Json) → List Lexeme
  | [] => []
  | [(key, item)] => .string (some key) :: .colon :: item.lexemes
  | (key, item) :: rest =>
    .string (some key) :: .colon :: (item.lexemes ++ .comma :: lexemesOfMembers rest)

end

theorem Numberless.of_array {items : List Json} (h : (Json.array items).Numberless) :
    ∀ item ∈ items, item.Numberless := by
  cases h with
  | array _ hitems => exact hitems

theorem Numberless.of_object {members : List (String × Json)} (h : (Json.object members).Numberless) :
    ∀ member ∈ members, member.2.Numberless := by
  cases h with
  | object _ hmembers => exact hmembers

theorem lexes_openBracket : Lexes "[".toList [.openBracket] := lexes_next rfl fun _ => rfl

theorem lexes_closeBracket : Lexes "]".toList [.closeBracket] := lexes_next rfl fun _ => rfl

theorem lexes_openBrace : Lexes "\x7b".toList [.openBrace] := lexes_next rfl fun _ => rfl

theorem lexes_closeBrace : Lexes "\x7d".toList [.closeBrace] := lexes_next rfl fun _ => rfl

theorem lexes_comma : Lexes ",".toList [.comma] := lexes_next rfl fun _ => rfl

theorem lexes_brackets : Lexes "[]".toList [.openBracket, .closeBracket] :=
  lexes_openBracket.append lexes_closeBracket

theorem lexes_braces : Lexes "\x7b\x7d".toList [.openBrace, .closeBrace] :=
  lexes_openBrace.append lexes_closeBrace

theorem lexes_null : Lexes "null".toList [.null] := lexes_next rfl fun _ => rfl

theorem lexes_true : Lexes "true".toList [.bool true] := lexes_next rfl fun _ => rfl

theorem lexes_false : Lexes "false".toList [.bool false] := lexes_next rfl fun _ => rfl

/-- A key with a colon in front of a value. -/
theorem lexes_key (key : String) : Lexes (renderString key ++ ":").toList
    [.string (some key), .colon] :=
  (lexes_string key).append_text (lexes_next rfl fun _ => rfl)

/-- A key with a colon and a blank in front of a value. -/
theorem lexes_key_blank (key : String) : Lexes (renderString key ++ ": ").toList
    [.string (some key), .colon] := by
  have hcolon : Lexes [':'] [.colon] := lexes_next rfl fun _ => rfl
  exact (lexes_string key).append_text (hcolon.append (lexes_blank rfl))

mutual

/-- The text of a value without blanks. -/
theorem lexes_render : (value : Json) → value.Numberless → Lexes value.render.toList value.lexemes
  | null, _ => lexes_null
  | bool true, _ => lexes_true
  | bool false, _ => lexes_false
  | number _, h => nomatch h
  | string s, _ => lexes_string s
  | array items, h => by
    have hitems := lexes_renderItems items h.of_array
    have hall := (lexes_openBracket.append_text hitems).append_text lexes_closeBracket
    rw [render, lexemes]
    exact hall
  | object members, h => by
    have hmembers := lexes_renderMembers members h.of_object
    have hall := (lexes_openBrace.append_text hmembers).append_text lexes_closeBrace
    rw [render, lexemes]
    exact hall

theorem lexes_renderItems : (items : List Json) → (∀ item ∈ items, item.Numberless) →
    Lexes (renderItems items).toList (lexemesOfItems items)
  | [], _ => lexes_nil
  | [item], h => lexes_render item (h item List.mem_cons_self)
  | item :: next :: rest, h => by
    obtain ⟨hitem, hrest⟩ := List.forall_mem_cons.mp h
    have hall := ((lexes_render item hitem).append_text lexes_comma).append_text
      (lexes_renderItems (next :: rest) hrest)
    rw [List.append_assoc] at hall
    exact hall

theorem lexes_renderMembers : (members : List (String × Json)) →
    (∀ member ∈ members, member.2.Numberless) →
    Lexes (renderMembers members).toList (lexemesOfMembers members)
  | [], _ => lexes_nil
  | [(key, item)], h => (lexes_key key).append_text (lexes_render item (h _ List.mem_cons_self))
  | (key, item) :: next :: rest, h => by
    obtain ⟨hitem, hrest⟩ := List.forall_mem_cons.mp h
    have hall := (((lexes_key key).append_text (lexes_render item hitem)).append_text
      lexes_comma).append_text (lexes_renderMembers (next :: rest) hrest)
    rw [List.append_assoc, List.append_assoc] at hall
    exact hall

end

mutual

/-- The text of a value on lines. -/
theorem lexes_prettyAt (depth : Nat) : (value : Json) → value.Numberless →
    Lexes (prettyAt depth value).toList value.lexemes
  | null, h => by
    rw [prettyAt]
    exact lexes_render null h
  | bool true, h => by
    rw [prettyAt]
    exact lexes_render (bool true) h
  | bool false, h => by
    rw [prettyAt]
    exact lexes_render (bool false) h
  | number _, h => nomatch h
  | string s, _ => lexes_string s
  | array [], _ => by
    rw [prettyAt]
    exact lexes_brackets
  | object [], _ => by
    rw [prettyAt]
    exact lexes_braces
  | array (item :: rest), h => by
    have hitems := lexes_prettyItems (depth + 1) (item :: rest) h.of_array
    have hall := (((lexes_openBracket.append_text (lexes_newline (depth + 1))).append_text
      hitems).append_text (lexes_newline depth)).append_text lexes_closeBracket
    rw [List.append_nil, List.append_nil] at hall
    rw [prettyAt, lexemes]
    exact hall
  | object (member :: rest), h => by
    have hmembers := lexes_prettyMembers (depth + 1) (member :: rest) h.of_object
    have hall := (((lexes_openBrace.append_text (lexes_newline (depth + 1))).append_text
      hmembers).append_text (lexes_newline depth)).append_text lexes_closeBrace
    rw [List.append_nil, List.append_nil] at hall
    rw [prettyAt, lexemes]
    exact hall

theorem lexes_prettyItems (depth : Nat) : (items : List Json) →
    (∀ item ∈ items, item.Numberless) →
    Lexes (prettyItems depth items).toList (lexemesOfItems items)
  | [], _ => lexes_nil
  | [item], h => lexes_prettyAt depth item (h item List.mem_cons_self)
  | item :: next :: rest, h => by
    obtain ⟨hitem, hrest⟩ := List.forall_mem_cons.mp h
    have hall := (((lexes_prettyAt depth item hitem).append_text lexes_comma).append_text
      (lexes_newline depth)).append_text (lexes_prettyItems depth (next :: rest) hrest)
    rw [List.append_nil, List.append_assoc] at hall
    exact hall

theorem lexes_prettyMembers (depth : Nat) : (members : List (String × Json)) →
    (∀ member ∈ members, member.2.Numberless) →
    Lexes (prettyMembers depth members).toList (lexemesOfMembers members)
  | [], _ => lexes_nil
  | [(key, item)], h =>
    (lexes_key_blank key).append_text (lexes_prettyAt depth item (h _ List.mem_cons_self))
  | (key, item) :: next :: rest, h => by
    obtain ⟨hitem, hrest⟩ := List.forall_mem_cons.mp h
    have hall := ((((lexes_key_blank key).append_text
      (lexes_prettyAt depth item hitem)).append_text lexes_comma).append_text
      (lexes_newline depth)).append_text (lexes_prettyMembers depth (next :: rest) hrest)
    rw [List.append_nil, List.append_assoc, List.append_assoc] at hall
    exact hall

end

/-- **Written values.** Both texts of a value without numbers have its lexemes. -/
theorem scan_render {value : Json} (h : value.Numberless) :
    Lexeme.scan value.render = value.lexemes :=
  (lexes_render value h).scan_eq

theorem scan_pretty {value : Json} (h : value.Numberless) :
    Lexeme.scan value.pretty = value.lexemes :=
  (lexes_prettyAt 0 value h).scan_eq

end Surrogates.Json
