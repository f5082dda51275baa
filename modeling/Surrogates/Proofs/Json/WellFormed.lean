/-
Surrogates.Proofs.Json.WellFormed — values whose objects have distinct keys.

A value is well-formed if no object in it, however deep, has a key twice.
Values that are read from texts are: `wellFormed_of_parse`. What is inside an
array or an object is less deep than it (`depth_lt_of_mem_array`,
`depth_lt_of_mem_object`).
-/
import Surrogates.Json.Reader

namespace Surrogates.Json

/-- The objects in a value have distinct keys. -/
inductive WellFormed : Json → Prop where
  | null : WellFormed .null
  | bool (value : Bool) : WellFormed (.bool value)
  | number (value : Json.Number) : WellFormed (.number value)
  | string (value : String) : WellFormed (.string value)
  | array (items : List Json) (hitems : ∀ item ∈ items, item.WellFormed) :
      WellFormed (.array items)
  | object (members : List (String × Json)) (hkeys : (Assoc.keys members).Nodup)
      (hmembers : ∀ member ∈ members, member.2.WellFormed) : WellFormed (.object members)

theorem WellFormed.of_array {items : List Json} (h : (Json.array items).WellFormed) :
    ∀ item ∈ items, item.WellFormed := by
  cases h with
  | array _ hitems => exact hitems

theorem WellFormed.of_object {members : List (String × Json)} (h : (Json.object members).WellFormed) :
    (Assoc.keys members).Nodup ∧ ∀ member ∈ members, member.2.WellFormed := by
  cases h with
  | object _ hkeys hmembers => exact ⟨hkeys, hmembers⟩

/-! ## §1 Depth -/

theorem depth_le_depthOfItems {items : List Json} {item : Json} (h : item ∈ items) :
    item.depth ≤ depthOfItems items := by
  induction items with
  | nil => cases h
  | cons first rest ih =>
    rw [depthOfItems]
    rcases List.mem_cons.mp h with rfl | h
    · omega
    · have hrest := ih h
      omega

theorem depth_le_depthOfMembers {members : List (String × Json)} {member : String × Json}
    (h : member ∈ members) : member.2.depth ≤ depthOfMembers members := by
  induction members with
  | nil => cases h
  | cons first rest ih =>
    rw [depthOfMembers]
    rcases List.mem_cons.mp h with rfl | h
    · omega
    · have hrest := ih h
      omega

theorem depth_lt_of_mem_array {items : List Json} {item : Json} (h : item ∈ items) :
    item.depth < (array items).depth := by
  rw [depth]
  exact Nat.lt_succ_of_le (depth_le_depthOfItems h)

theorem depth_lt_of_mem_object {members : List (String × Json)} {member : String × Json}
    (h : member ∈ members) : member.2.depth < (object members).depth := by
  rw [depth]
  exact Nat.lt_succ_of_le (depth_le_depthOfMembers h)

theorem depth_object_pos (members : List (String × Json)) : 0 < (object members).depth := by
  rw [depth]
  omega

theorem depth_getD_get?_lt (key : String) (members : List (String × Json)) :
    ((Assoc.get? key members).getD .null).depth < (object members).depth := by
  cases hget : Assoc.get? key members with
  | none => exact depth_object_pos members
  | some value => exact depth_lt_of_mem_object (Assoc.mem_of_get?_eq_some hget)

/-! ## §2 Reading -/

/-- A reader gives well-formed values only. -/
def ValueReader.Sound (value : ValueReader) : Prop :=
  ∀ lexemes item rest, value lexemes = some (item, rest) → item.WellFormed

theorem wellFormed_of_readItems {value : ValueReader} (hvalue : value.Sound) {fuel : Nat}
    {lexemes rest : List Lexeme} {items : List Json}
    (h : readItems value fuel lexemes = some (items, rest)) : ∀ item ∈ items, item.WellFormed := by
  induction fuel generalizing lexemes items with
  | zero => cases h
  | succ fuel ih =>
    rw [readItems] at h
    obtain ⟨⟨first, left⟩, hfirst, h⟩ := Option.bind_eq_some_iff.mp h
    have hwell := hvalue _ _ _ hfirst
    dsimp only at h
    split at h
    · cases h
      simpa using hwell
    · obtain ⟨⟨others, _⟩, hothers, heq⟩ := Option.bind_eq_some_iff.mp h
      cases heq
      intro item hitem
      rcases List.mem_cons.mp hitem with rfl | hitem
      · exact hwell
      · exact ih hothers item hitem
    · cases h

theorem wellFormed_put {members : List (String × Json)} {item : Json} (key : String)
    (h : (object members).WellFormed) (hitem : item.WellFormed) :
    (object (Assoc.put key item members)).WellFormed := by
  obtain ⟨hkeys, hmembers⟩ := h.of_object
  refine .object _ (Assoc.nodup_keys_put key item hkeys) ?_
  intro member hmember
  rcases Assoc.mem_put hmember with rfl | hold
  · exact hitem
  · exact hmembers member hold

theorem wellFormed_of_readMembers {value : ValueReader} (hvalue : value.Sound) {fuel : Nat}
    {lexemes rest : List Lexeme} {before members : List (String × Json)}
    (hbefore : (object before).WellFormed)
    (h : readMembers value fuel before lexemes = some (members, rest)) :
    (object members).WellFormed := by
  induction fuel generalizing lexemes before with
  | zero => simp [readMembers] at h
  | succ fuel ih =>
    rw [readMembers.eq_def] at h
    dsimp only at h
    split at h
    · next heq => cases heq
    · next heq =>
      cases heq
      obtain ⟨⟨item, left⟩, hitem, h⟩ := Option.bind_eq_some_iff.mp h
      have hput := fun key => wellFormed_put key hbefore (hvalue _ _ _ hitem)
      dsimp only at h
      split at h
      · cases h
        exact hput _
      · exact ih (hput _) h
      · cases h
    · cases h

theorem sound_readValue (depth : Nat) : (readValue depth).Sound := by
  induction depth using Nat.strongRecOn with
  | ind depth ih =>
    intro lexemes item rest h
    unfold readValue at h
    split at h
    · cases h
      exact .null
    · cases h
      exact .bool _
    · obtain ⟨number, -, heq⟩ := Option.map_eq_some_iff.mp h
      cases heq
      exact .number number
    · cases h
      exact .string _
    · cases h
      exact .array [] (by simp)
    · cases h
      exact .object [] List.nodup_nil (by simp)
    · obtain ⟨⟨items, left⟩, hitems, heq⟩ := Option.map_eq_some_iff.mp h
      cases heq
      exact .array items (wellFormed_of_readItems (ih _ (Nat.lt_succ_self _)) hitems)
    · obtain ⟨⟨members, left⟩, hmembers, heq⟩ := Option.map_eq_some_iff.mp h
      cases heq
      exact wellFormed_of_readMembers (ih _ (Nat.lt_succ_self _))
        (.object [] List.nodup_nil (by simp)) hmembers
    · cases h

/-- Values that are read from texts are well-formed. -/
theorem wellFormed_of_parse {text : String} {value : Json} (h : parse text = some value) :
    value.WellFormed := by
  unfold parse parseWithin at h
  split at h
  · next hread =>
    cases h
    exact sound_readValue 128 _ _ _ hread
  · cases h

end Surrogates.Json
