/-
Surrogates.Proofs.Document.Writing — values that are read as they were written.

`Reads reader value a` says that a reader takes a written value, whatever follows, and
gives `a`. There is one lemma for each way to build a reader: names and types, arrays
(`reads_sequence`), and objects, of which every member is read by the field of its key
(`reads_object`). Such a value is read back from both of its texts: `Reads.read_render`.
-/
import Surrogates.Document.Names
import Surrogates.Proofs.Json.Lexemes
import Surrogates.Proofs.Results

namespace Surrogates

/-! ## §1 Lexemes in front -/

namespace Json

variable {items : List Json} {item : Json}

/-- No value begins with the end of an array. -/
theorem Numberless.exists_lexemes_cons (h : item.Numberless) :
    ∃ first more, item.lexemes = first :: more ∧ first ≠ .closeBracket := by
  cases h <;> exact ⟨_, _, rfl, by simp⟩

theorem exists_lexemesOfItems_cons (h : item.Numberless) (rest : List Json) :
    ∃ first more, lexemesOfItems (item :: rest) = first :: more ∧ first ≠ .closeBracket := by
  obtain ⟨first, more, heq, hne⟩ := h.exists_lexemes_cons
  cases rest with
  | nil => exact ⟨first, more, heq, hne⟩
  | cons next rest =>
    refine ⟨first, more ++ .comma :: lexemesOfItems (next :: rest), ?_, hne⟩
    rw [lexemesOfItems, heq]
    · rfl
    · exact List.cons_ne_nil next rest

theorem length_le_lexemesOfItems (h : ∀ item ∈ items, item.Numberless) :
    items.length ≤ (lexemesOfItems items).length := by
  induction items with
  | nil => exact Nat.le_refl 0
  | cons item rest ih =>
    obtain ⟨hitem, hrest⟩ := List.forall_mem_cons.mp h
    cases rest with
    | nil =>
      obtain ⟨first, more, heq, -⟩ := hitem.exists_lexemes_cons
      simp [lexemesOfItems, heq]
    | cons next rest =>
      have hlength := ih hrest
      simp only [lexemesOfItems, List.length_cons, List.length_append] at hlength ⊢
      omega

theorem exists_lexemesOfMembers_cons (member : String × Json) (rest : List (String × Json)) :
    ∃ more, lexemesOfMembers (member :: rest) = .string (some member.1) :: more := by
  cases rest <;> exact ⟨_, rfl⟩

theorem length_le_lexemesOfMembers (members : List (String × Json)) :
    members.length ≤ (lexemesOfMembers members).length := by
  induction members with
  | nil => exact Nat.le_refl 0
  | cons member rest ih =>
    cases rest with
    | nil => simp [lexemesOfMembers]
    | cons next rest =>
      simp only [lexemesOfMembers, List.length_cons, List.length_append] at ih ⊢
      omega

end Json

namespace Document

open Json (Lexeme lexemesOfItems lexemesOfMembers)

variable {α σ : Type} {reader : Reader α} {value : Json} {a : α}

/-! ## §2 Values -/

/-- A reader takes a written value, which holds no numbers, and gives `a`. -/
structure Reads (reader : Reader α) (value : Json) (a : α) : Prop where
  numberless : value.Numberless
  read : ∀ rest, reader (value.lexemes ++ rest) = .ok (a, rest)

theorem reads_string (s : String) : Reads string (.string s) s :=
  ⟨.string s, fun _ => rfl⟩

theorem reads_boolean (b : Bool) : Reads boolean (.bool b) b :=
  ⟨.bool b, fun _ => rfl⟩

theorem reads_parsed {parse : String → Except String α} {text : String} (h : parse text = .ok a) :
    Reads (parsed parse) (.string text) a := by
  refine ⟨.string text, fun rest => ?_⟩
  refine Except.bind_eq_ok.mpr ⟨(text, rest), rfl, ?_⟩
  dsimp only
  rw [h]

theorem reads_typeName {name : TypeName} (h : TypeName.isPath name.text.toList = true) :
    Reads typeName (.string name.text) name := by
  refine reads_parsed ?_
  rw [TypeName.parse?, if_pos h]

theorem reads_typeExpr {type : TypeExpr} (h : TypeExpr.parse type.render = .ok type) :
    Reads typeExpr (.string type.render) type := by
  refine reads_parsed ?_
  rw [h]
  rfl

theorem reads_enumeration {variants : List (String × α)} {name : String}
    (h : variants.lookup name = some a) : Reads (enumeration variants) (.string name) a := by
  refine ⟨.string name, fun rest => ?_⟩
  show (variant variants name).map (·, rest) = .ok (a, rest)
  rw [variant, h]
  rfl

theorem descend_eq_ok {step : Step} {lexemes rest : List Lexeme}
    (h : reader lexemes = .ok (a, rest)) : descend step reader lexemes = .ok (a, rest) := by
  rw [descend, h]
  rfl

/-! ## §3 Arrays -/

theorem items_last {lexemes rest : List Lexeme} {fuel index : Nat}
    (hitem : reader lexemes = .ok (a, .closeBracket :: rest)) :
    items reader (fuel + 1) index lexemes = .ok ([a], rest) := by
  rw [items]
  exact Except.bind_eq_ok.mpr ⟨_, descend_eq_ok hitem, rfl⟩

/-- A comma behind an item is not followed by the end of the array. -/
theorem items_cons {lexemes rest more : List Lexeme} {first : Lexeme} {fuel index : Nat}
    {as : List α} (hitem : reader lexemes = .ok (a, .comma :: first :: more))
    (hne : first ≠ .closeBracket)
    (hmore : items reader fuel (index + 1) (first :: more) = .ok (as, rest)) :
    items reader (fuel + 1) index lexemes = .ok (a :: as, rest) := by
  rw [items]
  refine Except.bind_eq_ok.mpr ⟨_, descend_eq_ok hitem, ?_⟩
  dsimp only
  split
  · next heq => cases heq
  · next heq =>
    cases heq
    exact absurd rfl hne
  · next heq =>
    cases heq
    exact Except.bind_eq_ok.mpr ⟨_, hmore, rfl⟩
  · next hnot => exact (hnot _ rfl).elim

/-- The items of an array that is not empty. -/
theorem items_eq_ok {toJson : α → Json} {as : List α}
    (h : ∀ value ∈ a :: as, Reads reader (toJson value) value) {fuel : Nat}
    (hfuel : (a :: as).length ≤ fuel) (index : Nat) (rest : List Lexeme) :
    items reader fuel index (lexemesOfItems ((a :: as).map toJson) ++ .closeBracket :: rest) =
      .ok (a :: as, rest) := by
  induction as generalizing a fuel index with
  | nil =>
    obtain ⟨fuel, rfl⟩ : ∃ k, fuel = k + 1 := ⟨fuel - 1, by simp at hfuel; omega⟩
    exact items_last ((h a List.mem_cons_self).read (.closeBracket :: rest))
  | cons next as ih =>
    obtain ⟨fuel, rfl⟩ : ∃ k, fuel = k + 1 := ⟨fuel - 1, by simp at hfuel; omega⟩
    obtain ⟨ha, has⟩ := List.forall_mem_cons.mp h
    obtain ⟨first, more, hfirst, hne⟩ := Json.exists_lexemesOfItems_cons
      (has next List.mem_cons_self).numberless (as.map toJson)
    have hmore := ih has (Nat.le_of_succ_le_succ hfuel) (index + 1)
    have hitem := ha.read
      (.comma :: (lexemesOfItems ((next :: as).map toJson) ++ .closeBracket :: rest))
    rw [List.map_cons, hfirst] at hmore hitem
    rw [List.map_cons, List.map_cons, lexemesOfItems, hfirst, List.append_assoc]
    · exact items_cons hitem hne hmore
    · exact List.cons_ne_nil _ _

theorem sequence_eq_ok {first : Lexeme} {more rest : List Lexeme} {as : List α}
    (hne : first ≠ .closeBracket)
    (hitems : items reader (first :: more).length 0 (first :: more) = .ok (as, rest)) :
    sequence reader (.openBracket :: first :: more) = .ok (as, rest) := by
  rw [sequence.eq_def]
  split
  · next heq =>
    cases heq
    exact absurd rfl hne
  · next heq =>
    cases heq
    exact hitems
  · next hnot => exact (hnot _ rfl).elim

/-- An array is read if its items are. -/
theorem reads_sequence {toJson : α → Json} {as : List α}
    (h : ∀ value ∈ as, Reads reader (toJson value) value) :
    Reads (sequence reader) (.array (as.map toJson)) as := by
  have hnumberless : ∀ json ∈ as.map toJson, json.Numberless := by
    intro json hjson
    obtain ⟨value, hvalue, rfl⟩ := List.mem_map.mp hjson
    exact (h value hvalue).numberless
  refine ⟨.array _ hnumberless, fun rest => ?_⟩
  cases as with
  | nil => rfl
  | cons a as =>
    obtain ⟨first, more, hfirst, hne⟩ := Json.exists_lexemesOfItems_cons
      (h a List.mem_cons_self).numberless (as.map toJson)
    have hlength := Json.length_le_lexemesOfItems hnumberless
    have hfuel : (a :: as).length ≤
        (lexemesOfItems ((a :: as).map toJson) ++ .closeBracket :: rest).length := by
      simp only [List.length_map, List.length_append] at hlength ⊢
      omega
    have hitems := items_eq_ok h hfuel 0 rest
    rw [Json.lexemes, List.cons_append, List.append_assoc, List.singleton_append]
    rw [List.map_cons, hfirst] at hitems ⊢
    exact sequence_eq_ok hne hitems

/-! ## §4 Objects -/

theorem Reads.required {name : String} {set : σ → α → σ} (h : Reads reader value a) (record : σ) :
    Reads ((Field.required name reader set).read record) value (set record a) := by
  refine ⟨h.numberless, fun rest => ?_⟩
  show (reader (value.lexemes ++ rest)).map _ = _
  rw [h.read]
  rfl

theorem Reads.optional {name : String} {set : σ → α → σ} (h : Reads reader value a) (record : σ) :
    Reads ((Field.optional name reader set).read record) value (set record a) :=
  (h.required record : Reads ((Field.required name reader set).read record) value (set record a))

namespace Layout

variable {layout : Layout σ} {seen : List String} {record blank result : σ}
  {members : List (String × Json)}

/-- Members of distinct keys that are read into a record one after another, until no
field is missing that has to be there. -/
inductive Takes (layout : Layout σ) : List String → σ → List (String × Json) → σ → Prop where
  | nil {seen : List String} {record : σ}
      (complete : ∀ field ∈ layout.fields, field.isRequired = true → field.name ∈ seen) :
      Takes layout seen record [] record
  | cons {seen : List String} {record next result : σ} {key : String} {value : Json}
      {field : Field σ} {members : List (String × Json)}
      (found : layout.fields.find? (·.name == key) = some field) (fresh : key ∉ seen)
      (reads : Reads (field.read record) value next)
      (more : Takes layout (key :: seen) next members result) :
      Takes layout seen record ((key, value) :: members) result

theorem Takes.numberless (h : layout.Takes seen record members result) :
    ∀ member ∈ members, member.2.Numberless := by
  induction h with
  | nil => exact List.forall_mem_nil _
  | cons _ _ reads _ ih => exact List.forall_mem_cons.mpr ⟨reads.numberless, ih⟩

theorem finish_eq_ok (complete : ∀ field ∈ layout.fields, field.isRequired = true →
    field.name ∈ seen) (record : σ) (rest : List Lexeme) :
    layout.finish seen record rest = .ok (record, rest) := by
  have hnone : (layout.fields.find? fun field =>
      field.isRequired && !seen.contains field.name) = none := by
    refine List.find?_eq_none.mpr fun field hfield => ?_
    have := complete field hfield
    simpa using this
  rw [finish, hnone]

theorem readMember_eq_ok {key : String} {next : σ} {field : Field σ}
    (found : layout.fields.find? (·.name == key) = some field) (fresh : key ∉ seen)
    (reads : Reads (field.read record) value next) (rest : List Lexeme) :
    layout.readMember key seen record (.colon :: (value.lexemes ++ rest)) =
      .ok ((key :: seen, next), rest) := by
  have hread : descend (.key key) (field.read record) (value.lexemes ++ rest) = .ok (next, rest) :=
    descend_eq_ok (reads.read rest)
  unfold readMember
  simp only [found, List.contains_iff_mem, fresh, if_false, hread]
  rfl

theorem readMembers_eq_ok {member : String × Json}
    (h : layout.Takes seen record (member :: members) result) {fuel : Nat}
    (hfuel : (member :: members).length ≤ fuel) (rest : List Lexeme) :
    layout.readMembers fuel seen record
        (lexemesOfMembers (member :: members) ++ .closeBrace :: rest) = .ok (result, rest) := by
  induction members generalizing member seen record fuel with
  | nil =>
    obtain ⟨fuel, rfl⟩ : ∃ k, fuel = k + 1 := ⟨fuel - 1, by simp at hfuel; omega⟩
    obtain _ | ⟨found, fresh, reads, more⟩ := h
    cases more with
    | nil complete =>
      have hmember := readMember_eq_ok found fresh reads (.closeBrace :: rest)
      rw [lexemesOfMembers, List.cons_append, List.cons_append, readMembers]
      refine Except.bind_eq_ok.mpr ⟨_, hmember, ?_⟩
      exact finish_eq_ok complete _ rest
  | cons other members ih =>
    obtain ⟨fuel, rfl⟩ : ∃ k, fuel = k + 1 := ⟨fuel - 1, by simp at hfuel; omega⟩
    obtain _ | ⟨found, fresh, reads, more⟩ := h
    have hmore := ih more (Nat.le_of_succ_le_succ hfuel)
    have hmember := readMember_eq_ok found fresh reads
      (.comma :: (lexemesOfMembers (other :: members) ++ .closeBrace :: rest))
    rw [lexemesOfMembers, List.cons_append, List.cons_append, readMembers, List.append_assoc,
      List.cons_append]
    · exact Except.bind_eq_ok.mpr ⟨_, hmember, hmore⟩
    · exact List.cons_ne_nil _ _

/-- An object is read if its members are. -/
theorem reads_object (h : layout.Takes [] blank members result) :
    Reads (layout.read blank) (.object members) result := by
  refine ⟨.object _ h.numberless, fun rest => ?_⟩
  cases members with
  | nil =>
    cases h with
    | nil complete => exact finish_eq_ok complete _ rest
  | cons member members =>
    have hlength := Json.length_le_lexemesOfMembers (member :: members)
    have hfuel : (member :: members).length ≤
        (lexemesOfMembers (member :: members) ++ .closeBrace :: rest).length := by
      rw [List.length_append]
      omega
    have hmembers := readMembers_eq_ok h hfuel rest
    obtain ⟨more, hmore⟩ := Json.exists_lexemesOfMembers_cons member members
    rw [Json.lexemes, List.cons_append, List.append_assoc, List.singleton_append]
    rw [hmore] at hmembers ⊢
    exact hmembers

end Layout

/-! ## §5 Texts -/

/-- What is read as it was written is read back from the text without blanks. -/
theorem Reads.read_render (h : Reads reader value a) : Document.read reader value.render = .ok a := by
  have hread := h.read []
  rw [List.append_nil] at hread
  rw [Document.read, Json.scan_render h.numberless, hread]
  rfl

theorem Reads.read_pretty (h : Reads reader value a) : Document.read reader value.pretty = .ok a := by
  have hread := h.read []
  rw [List.append_nil] at hread
  rw [Document.read, Json.scan_pretty h.numberless, hread]
  rfl

end Document

end Surrogates
