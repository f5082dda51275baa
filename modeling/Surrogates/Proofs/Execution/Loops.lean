/-
Surrogates.Proofs.Execution.Loops — the loops of the interpreter in closed
form.

Fields of distinct names do not get into each other's way: each finds its
value where it was in the beginning, and the results stand in the order of
the fields (`runFields_eq_ok`, `exists_values_of_runFields`). A map is run
member by member and then put together, which changes nothing if the new keys
are distinct (`runEntries_eq`).
-/
import Mathlib.Data.List.Forall2
import Surrogates.Execution.Interpreter
import Surrogates.Proofs.Results

namespace Surrogates.Execution

variable {α β : Type}

namespace Interpreter

variable {inner : Plan → Json → Result Json}

/-! ## §1 Fields -/

/-- Runs one field of a surrogate on an object. -/
def runField (inner : Plan → Json → Result Json) (type : TypeName)
    (source : List (String × Json)) (field : SurrogateField) : Result Json :=
  fieldValue type field source >>= inner field.plan

theorem runFields_cons (inner : Plan → Json → Result Json) (type : TypeName)
    (field : SurrogateField) (rest : List SurrogateField) (source out : List (String × Json)) :
    runFields inner type (field :: rest) source out =
      runField inner type source field >>= fun value =>
        runFields inner type rest (Assoc.erase field.name source)
          (Assoc.put field.name value out) := by
  rw [runFields, runField, bind_assoc]

/-- A field of another name is where it was. -/
theorem runField_erase {type : TypeName} {source : List (String × Json)} {field : SurrogateField}
    {name : String} (h : field.name ≠ name) :
    runField inner type (Assoc.erase name source) field = runField inner type source field := by
  unfold runField fieldValue
  rw [Assoc.get?_erase_of_ne source h]

theorem name_ne_of_nodup {field : SurrogateField} {rest : List SurrogateField}
    (h : ((field :: rest).map (·.name)).Nodup) :
    ∀ other ∈ rest, other.name ≠ field.name := by
  intro other hother heq
  exact (List.nodup_cons.mp h).1 (List.mem_map.mpr ⟨other, hother, heq⟩)

/-- Fields of distinct names give their results in order. -/
theorem runFields_eq_ok {type : TypeName} {fields : List SurrogateField}
    {source out : List (String × Json)} (hnames : (fields.map (·.name)).Nodup)
    (hout : ∀ field ∈ fields, field.name ∉ Assoc.keys out) {values : SurrogateField → Json}
    (h : ∀ field ∈ fields, runField inner type source field = .ok (values field)) :
    runFields inner type fields source out =
      .ok (out ++ fields.map fun field => (field.name, values field)) := by
  induction fields generalizing source out with
  | nil => simp [runFields]
  | cons field rest ih =>
    have hne := name_ne_of_nodup hnames
    have hput : Assoc.put field.name (values field) out = out ++ [(field.name, values field)] :=
      Assoc.put_of_notMem _ (hout field List.mem_cons_self)
    rw [runFields_cons, h field List.mem_cons_self]
    show runFields inner type rest _ (Assoc.put field.name (values field) out) = _
    rw [hput, ih (List.nodup_cons.mp hnames).2]
    · simp
    · intro other hother hmem
      rw [Assoc.keys, List.map_append, List.mem_append] at hmem
      rcases hmem with hold | hnew
      · exact hout other (List.mem_cons_of_mem _ hother) hold
      · exact hne other hother (List.mem_singleton.mp hnew)
    · intro other hother
      rw [runField_erase (hne other hother)]
      exact h other (List.mem_cons_of_mem _ hother)

/-- Where fields of distinct names give a result, each of them does. -/
theorem exists_value_of_runFields {type : TypeName} {fields : List SurrogateField}
    {source out result : List (String × Json)} (hnames : (fields.map (·.name)).Nodup)
    (h : runFields inner type fields source out = .ok result) :
    ∀ field ∈ fields, ∃ value, runField inner type source field = .ok value := by
  induction fields generalizing source out with
  | nil => simp
  | cons field rest ih =>
    rw [runFields_cons] at h
    obtain ⟨value, hvalue, hlater⟩ := Except.bind_eq_ok.mp h
    intro other hother
    rcases List.mem_cons.mp hother with rfl | hother
    · exact ⟨value, hvalue⟩
    · obtain ⟨found, hfound⟩ := ih (List.nodup_cons.mp hnames).2 hlater other hother
      rw [runField_erase (name_ne_of_nodup hnames other hother)] at hfound
      exact ⟨found, hfound⟩

theorem exists_values_of_runFields {type : TypeName} {fields : List SurrogateField}
    {source result : List (String × Json)} (hnames : (fields.map (·.name)).Nodup)
    (h : runFields inner type fields source [] = .ok result) :
    ∃ values : SurrogateField → Json,
      (∀ field ∈ fields, runField inner type source field = .ok (values field)) ∧
        result = fields.map fun field => (field.name, values field) := by
  have hvalues : ∀ field ∈ fields, runField inner type source field =
      .ok ((runField inner type source field).toOption.getD .null) := by
    intro field hfield
    obtain ⟨value, hvalue⟩ := exists_value_of_runFields hnames h field hfield
    rw [hvalue]
    rfl
  refine ⟨_, hvalues, ?_⟩
  rw [runFields_eq_ok hnames (by simp [Assoc.keys]) hvalues] at h
  exact (Except.ok.inj h).symm

/-! ## §2 Maps -/

/-- Runs one member of a map. -/
def runEntry (inner : Plan → Json → Result Json) (head : TypeName) (key item : Plan)
    (member : String × Json) : Result (String × Json) := do
  match ← inner key (.string member.1) with
  | .string name => do
    let value ← inner item member.2
    .ok (name, value)
  | other => .error (.shape head .stringKey other)

theorem runEntry_eq_ok {head : TypeName} {key item : Plan} {member result : String × Json} :
    runEntry inner head key item member = .ok result ↔
      inner key (.string member.1) = .ok (.string result.1) ∧
        inner item member.2 = .ok result.2 := by
  unfold runEntry
  rw [Except.bind_eq_ok]
  constructor
  · rintro ⟨name, hname, h⟩
    split at h
    · obtain ⟨value, hvalue, heq⟩ := Except.bind_eq_ok.mp h
      cases heq
      exact ⟨hname, hvalue⟩
    · cases h
  · rintro ⟨hname, hvalue⟩
    refine ⟨.string result.1, hname, ?_⟩
    dsimp only
    rw [hvalue]
    rfl

/-- A map is run member by member, and then put together. -/
theorem runEntries_eq (inner : Plan → Json → Result Json) (head : TypeName) (key item : Plan)
    (members out : List (String × Json)) :
    runEntries inner head key item members out =
      (members.mapM (runEntry inner head key item)).map fun results =>
        results.foldl (fun table (k, a) => Assoc.put k a table) out := by
  induction members generalizing out with
  | nil => rfl
  | cons member rest ih =>
    obtain ⟨name, value⟩ := member
    rw [runEntries, List.mapM_cons, runEntry]
    dsimp only
    cases hname : inner key (.string name) with
    | error failure => rfl
    | ok found =>
      cases found with
      | string key' =>
        cases hvalue : inner item value with
        | error failure => rfl
        | ok a =>
          show runEntries inner head key item rest (Assoc.put key' a out) = _
          rw [ih]
          show _ = Except.map _ (rest.mapM (runEntry inner head key item) >>= fun _ => .ok _)
          cases rest.mapM (runEntry inner head key item) with
          | error failure => rfl
          | ok results => rfl
      | _ => rfl

/-! ## §3 Lists -/

theorem mapM_congr {f g : α → Result β} {items : List α}
    (h : ∀ item ∈ items, f item = g item) : items.mapM f = items.mapM g := by
  induction items with
  | nil => rfl
  | cons item rest ih =>
    rw [List.mapM_cons, List.mapM_cons, h item List.mem_cons_self,
      ih fun other hother => h other (List.mem_cons_of_mem _ hother)]

theorem mapM_ok_of_ok {f g : α → Result β} {items : List α} {results : List β}
    (h : ∀ a ∈ items, ∀ b, f a = .ok b → g a = .ok b) (hrun : items.mapM f = .ok results) :
    items.mapM g = .ok results := by
  induction items generalizing results with
  | nil => exact hrun
  | cons a rest ih =>
    rw [List.mapM_cons] at hrun
    obtain ⟨b, hb, hrest⟩ := Except.bind_eq_ok.mp hrun
    obtain ⟨bs, hbs, heq⟩ := Except.bind_eq_ok.mp hrest
    rw [List.mapM_cons, h a List.mem_cons_self b hb,
      ih (fun other hother => h other (List.mem_cons_of_mem _ hother)) hbs]
    exact heq

/-- A list is run if each of its items is. -/
theorem mapM_eq_ok_iff {f : α → Result β} {items : List α} {results : List β} :
    items.mapM f = .ok results ↔ List.Forall₂ (fun a b => f a = .ok b) items results := by
  induction items generalizing results with
  | nil =>
    rw [List.forall₂_nil_left_iff]
    exact ⟨fun h => (Except.ok.inj h).symm, fun h => h ▸ rfl⟩
  | cons a rest ih =>
    rw [List.mapM_cons, Except.bind_eq_ok, List.forall₂_cons_left_iff]
    constructor
    · rintro ⟨b, hb, hrest⟩
      obtain ⟨bs, hbs, heq⟩ := Except.bind_eq_ok.mp hrest
      cases heq
      exact ⟨b, bs, hb, ih.mp hbs, rfl⟩
    · rintro ⟨b, bs, hb, hbs, rfl⟩
      exact ⟨b, hb, Except.bind_eq_ok.mpr ⟨bs, ih.mpr hbs, rfl⟩⟩

theorem exists_of_mem_mapM {f : α → Result β} {items : List α} {results : List β}
    (h : items.mapM f = .ok results) {a : α} (ha : a ∈ items) : ∃ b ∈ results, f a = .ok b := by
  induction items generalizing results with
  | nil => cases ha
  | cons first rest ih =>
    rw [List.mapM_cons] at h
    obtain ⟨b, hb, hrest⟩ := Except.bind_eq_ok.mp h
    obtain ⟨bs, hbs, heq⟩ := Except.bind_eq_ok.mp hrest
    cases heq
    rcases List.mem_cons.mp ha with rfl | ha
    · exact ⟨b, List.mem_cons_self, hb⟩
    · obtain ⟨found, hmem, hfound⟩ := ih hbs ha
      exact ⟨found, List.mem_cons_of_mem _ hmem, hfound⟩

/-- What is undone item by item is undone as a list. -/
theorem mapM_undone {encode : α → Result β} {decode : β → Result α} {normal : α → α}
    {items : List α} {results : List β}
    (h : ∀ a ∈ items, ∀ b, encode a = .ok b →
      decode b = .ok (normal a) ∧ encode (normal a) = .ok b)
    (hrun : items.mapM encode = .ok results) :
    results.mapM decode = .ok (items.map normal) ∧
      (items.map normal).mapM encode = .ok results := by
  induction items generalizing results with
  | nil =>
    cases hrun
    exact ⟨rfl, rfl⟩
  | cons a rest ih =>
    rw [List.mapM_cons] at hrun
    obtain ⟨b, hb, hrest⟩ := Except.bind_eq_ok.mp hrun
    obtain ⟨bs, hbs, heq⟩ := Except.bind_eq_ok.mp hrest
    cases heq
    obtain ⟨hdecode, hencode⟩ := h a List.mem_cons_self b hb
    obtain ⟨hdecodes, hencodes⟩ :=
      ih (fun other hother => h other (List.mem_cons_of_mem _ hother)) hbs
    rw [List.map_cons, List.mapM_cons, List.mapM_cons, hdecode, hencode, hdecodes, hencodes]
    exact ⟨rfl, rfl⟩

end Interpreter

end Surrogates.Execution
