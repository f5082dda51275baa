/-
Surrogates.Proofs.Document.Readers — what is known of values that are read.

`Yields P reader` says that a reader gives no value without the property `P`.
There is one lemma for each way to build a reader. What is known of a record can
depend on the fields that were read, and in the end all were that have to be there:
`yields_read_of_seen`. In particular a record has a property that its blank has and
that every field keeps: `yields_read`.
-/
import Surrogates.Document.Names
import Surrogates.Proofs.Results

namespace Surrogates.Document

open Json (Lexeme)

variable {α σ : Type} {P : α → Prop}

/-- Every value that a reader gives has a property. -/
def Yields (P : α → Prop) (reader : Reader α) : Prop :=
  ∀ lexemes value rest, reader lexemes = .ok (value, rest) → P value

/-! ## §1 Values -/

theorem yields_true (reader : Reader α) : Yields (fun _ => True) reader :=
  fun _ _ _ _ => trivial

theorem yields_parsed {parse : String → Except String α}
    (h : ∀ text value, parse text = .ok value → P value) : Yields P (parsed parse) := by
  intro lexemes value rest hread
  obtain ⟨⟨text, behind⟩, -, hparse⟩ := Except.bind_eq_ok.mp hread
  dsimp only at hparse
  split at hparse
  · next found hfound =>
    cases hparse
    exact h text _ hfound
  · cases hparse

/-- The names that are read are paths. -/
theorem yields_typeName :
    Yields (fun name => TypeName.isPath name.text.toList = true) typeName := by
  refine yields_parsed fun text name hparse => ?_
  split at hparse
  · next found hfound =>
    cases hparse
    unfold TypeName.parse? at hfound
    split at hfound
    · next hpath =>
      cases hfound
      exact hpath
    · cases hfound
  · cases hparse

theorem yields_descend {reader : Reader α} (h : Yields P reader) (step : Step) :
    Yields P (descend step reader) := by
  intro lexemes value rest hread
  unfold descend at hread
  cases hinner : reader lexemes with
  | error fault =>
    rw [hinner] at hread
    cases hread
  | ok result =>
    rw [hinner] at hread
    cases hread
    exact h _ _ _ hinner

/-! ## §2 Sequences -/

theorem yields_items {item : Reader α} (h : Yields P item) (fuel index : Nat) :
    Yields (∀ a ∈ ·, P a) (items item fuel index) := by
  induction fuel generalizing index with
  | zero =>
    intro lexemes values rest hread
    cases hread
  | succ fuel ih =>
    intro lexemes values rest hread
    obtain ⟨⟨first, behind⟩, hfirst, hmore⟩ := Except.bind_eq_ok.mp hread
    have hP : P first := yields_descend h _ _ _ _ hfirst
    dsimp only at hmore
    split at hmore
    · cases hmore
      exact List.forall_mem_singleton.mpr hP
    · cases hmore
    · obtain ⟨⟨more, last⟩, hrest, heq⟩ := Except.bind_eq_ok.mp hmore
      cases heq
      exact List.forall_mem_cons.mpr ⟨hP, ih _ _ _ _ hrest⟩
    · cases hmore

theorem yields_sequence {item : Reader α} (h : Yields P item) :
    Yields (∀ a ∈ ·, P a) (sequence item) := by
  intro lexemes values rest hread
  unfold sequence at hread
  split at hread
  · cases hread
    exact List.forall_mem_nil _
  · exact yields_items h _ _ _ _ _ hread
  · cases hread

/-! ## §3 Fields -/

variable {P : σ → Prop} {S : List String → σ → Prop} {layout : Layout σ}

/-- A field that keeps a property of the record it is read into. -/
def Field.Keeps (P : σ → Prop) (field : Field σ) : Prop :=
  ∀ record, P record → Yields P (field.read record)

/-- A field that leads from what is known of a record and the names of the fields
that were read to the same with its own name. -/
def Field.Advances (S : List String → σ → Prop) (field : Field σ) : Prop :=
  ∀ seen record, S seen record → Yields (S (field.name :: seen)) (field.read record)

theorem Field.advances_of_keeps {field : Field σ} (h : field.Keeps P) :
    field.Advances fun _ => P :=
  fun _ record hrecord => h record hrecord

theorem Field.advances_required {Q : α → Prop} {name : String} {reader : Reader α}
    {set : σ → α → σ} (hreader : Yields Q reader)
    (hset : ∀ seen record value, S seen record → Q value → S (name :: seen) (set record value)) :
    Field.Advances S (.required name reader set) := by
  intro seen record hrecord lexemes value rest hread
  obtain ⟨⟨found, behind⟩, hfound, heq⟩ := Except.map_eq_ok.mp hread
  cases heq
  exact hset seen record found hrecord (hreader _ _ _ hfound)

theorem Field.advances_optional {Q : α → Prop} {name : String} {reader : Reader α}
    {set : σ → α → σ} (hreader : Yields Q reader)
    (hset : ∀ seen record value, S seen record → Q value → S (name :: seen) (set record value)) :
    Field.Advances S (.optional name reader set) :=
  (Field.advances_required hreader hset : Field.Advances S (.required name reader set))

theorem Field.keeps_required {Q : α → Prop} {name : String} {reader : Reader α} {set : σ → α → σ}
    (hreader : Yields Q reader) (hset : ∀ record value, P record → Q value → P (set record value)) :
    Field.Keeps P (.required name reader set) :=
  fun record hrecord =>
    Field.advances_required (S := fun _ => P) hreader (fun _ => hset) [] record hrecord

theorem Field.keeps_optional {Q : α → Prop} {name : String} {reader : Reader α} {set : σ → α → σ}
    (hreader : Yields Q reader) (hset : ∀ record value, P record → Q value → P (set record value)) :
    Field.Keeps P (.optional name reader set) :=
  (Field.keeps_required hreader hset : Field.Keeps P (.required name reader set))

/-! ## §4 Records -/

namespace Layout

/-- What is known of a record when all fields were read that have to be there. -/
def Complete (S : List String → σ → Prop) (fields : List (Field σ)) (record : σ) : Prop :=
  ∃ seen, S seen record ∧ ∀ field ∈ fields, field.isRequired = true → field.name ∈ seen

theorem Complete.snoc_of_optional {done : List (Field σ)} {field : Field σ} {record : σ}
    (h : Complete S done record) (hoptional : ¬field.isRequired = true) :
    Complete S (done ++ [field]) record := by
  obtain ⟨seen, hseen, hdone⟩ := h
  refine ⟨seen, hseen, List.forall_mem_append.mpr ⟨hdone, ?_⟩⟩
  exact List.forall_mem_singleton.mpr fun hrequired => absurd hrequired hoptional

theorem Complete.snoc_of_advances {done : List (Field σ)} {field : Field σ} {record : σ}
    (h : Complete S done record) (hfield : field.Advances S) :
    Yields (Complete S (done ++ [field])) (field.read record) := by
  obtain ⟨seen, hseen, hdone⟩ := h
  intro lexemes value rest hread
  refine ⟨field.name :: seen, hfield seen record hseen _ _ _ hread,
    List.forall_mem_append.mpr ⟨fun other hother hrequired => ?_, ?_⟩⟩
  · exact List.mem_cons_of_mem _ (hdone other hother hrequired)
  · exact List.forall_mem_singleton.mpr fun _ => List.mem_cons_self

theorem complete_readArray (index : Nat) {done fields : List (Field σ)}
    (hfields : ∀ field ∈ fields, field.Advances S) {record : σ}
    (hrecord : Complete S done record) :
    Yields (Complete S (done ++ fields)) (layout.readArray index fields record) := by
  induction fields generalizing index done record with
  | nil =>
    intro lexemes value rest hread
    unfold readArray endArray at hread
    split at hread
    · cases hread
      rwa [List.append_nil]
    · cases hread
    · cases hread
    · cases hread
  | cons field more ih =>
    obtain ⟨hfield, hmore⟩ := List.forall_mem_cons.mp hfields
    rw [List.append_cons]
    intro lexemes value rest hread
    unfold readArray at hread
    split at hread
    · split at hread
      · cases hread
      · next hoptional => exact ih _ hmore (hrecord.snoc_of_optional hoptional) _ _ _ hread
    · have hvalue : ∀ behind, (descend (.index index) (field.read record) behind >>=
          fun found => layout.readArray (index + 1) more found.1 found.2) =
            .ok (value, rest) → Complete S ((done ++ [field]) ++ more) value := by
        intro behind hnext
        obtain ⟨⟨changed, last⟩, hchanged, hrest⟩ := Except.bind_eq_ok.mp hnext
        have hread := yields_descend (hrecord.snoc_of_advances hfield) _ _ _ _ hchanged
        exact ih _ hmore hread _ _ _ hrest
      dsimp only at hread
      split at hread
      · exact hvalue _ hread
      · split at hread
        · cases hread
        · exact hvalue _ hread
        · cases hread

theorem complete_of_finish {seen : List String} {record value : σ} {rest last : List Lexeme}
    (hrecord : S seen record) (h : layout.finish seen record rest = .ok (value, last)) :
    Complete S layout.fields value := by
  unfold finish at h
  split at h
  · cases h
  · next hnone =>
    cases h
    refine ⟨seen, hrecord, fun field hfield hrequired => ?_⟩
    have hseen := List.find?_eq_none.mp hnone field hfield
    simpa [hrequired] using hseen

theorem of_readMember (hfields : ∀ field ∈ layout.fields, field.Advances S) {key : String}
    {seen later : List String} {record value : σ} {lexemes rest : List Lexeme}
    (hrecord : S seen record)
    (h : layout.readMember key seen record lexemes = .ok ((later, value), rest)) :
    S later value := by
  unfold readMember at h
  dsimp only at h
  split at h
  · next field hfield =>
    split at h
    · cases h
    · obtain ⟨⟨changed, behind⟩, hchanged, heq⟩ := Except.map_eq_ok.mp h
      cases heq
      obtain rfl : field.name = key := by simpa using List.find?_some hfield
      split at hchanged
      · exact yields_descend (hfields field (List.mem_of_find?_eq_some hfield) seen record hrecord)
          _ _ _ _ hchanged
      · cases hchanged
  · split at h
    · cases h
    · obtain ⟨_, -, heq⟩ := Except.map_eq_ok.mp h
      cases heq
      exact hrecord

theorem complete_readMembers (hfields : ∀ field ∈ layout.fields, field.Advances S) (fuel : Nat)
    (seen : List String) {record : σ} (hrecord : S seen record) :
    Yields (Complete S layout.fields) (layout.readMembers fuel seen record) := by
  induction fuel generalizing seen record with
  | zero =>
    intro lexemes value rest hread
    cases hread
  | succ fuel ih =>
    intro lexemes value rest hread
    rw [readMembers.eq_def] at hread
    split at hread
    · next heq =>
      cases heq
      obtain ⟨⟨⟨later, changed⟩, behind⟩, hmember, hnext⟩ := Except.bind_eq_ok.mp hread
      have hchanged : S later changed := of_readMember hfields hrecord hmember
      dsimp only at hnext
      split at hnext
      · exact complete_of_finish hchanged hnext
      · exact ih _ hchanged _ _ _ hnext
      · cases hnext
    · cases hread

/-- **Records.** What is known of a blank record, and what every field adds to it,
is known of a record that is read, and no field is missing that has to be there. -/
theorem yields_read_of_seen (hfields : ∀ field ∈ layout.fields, field.Advances S) {blank : σ}
    (hblank : S [] blank) : Yields (Complete S layout.fields) (layout.read blank) := by
  intro lexemes value rest hread
  have hnone : Complete S [] blank := ⟨[], hblank, List.forall_mem_nil _⟩
  unfold read at hread
  split at hread
  · exact complete_readArray 0 hfields hnone _ _ _ hread
  · exact complete_of_finish hblank hread
  · exact complete_readMembers hfields _ _ hblank _ _ _ hread
  · cases hread

/-- What a blank record has and every field keeps, a record that is read has too. -/
theorem yields_read (hfields : ∀ field ∈ layout.fields, field.Keeps P) {blank : σ}
    (hblank : P blank) : Yields P (layout.read blank) := by
  intro lexemes value rest hread
  obtain ⟨seen, hvalue, -⟩ := yields_read_of_seen (S := fun _ => P)
    (fun field hfield => Field.advances_of_keeps (hfields field hfield)) hblank _ _ _ hread
  exact hvalue

end Layout

end Surrogates.Document
