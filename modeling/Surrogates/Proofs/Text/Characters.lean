/-
Surrogates.Proofs.Text.Characters — kinds of characters that exclude each other.

A character that may begin an identifier is no blank, no digit and no byte
order mark: `isBlank_eq_false_of_isStart`, `isDigit_eq_false_of_isStart`.
ASCII is settled by bounds, and the tables above it by comparing their
ranges.
-/
import Surrogates.Text.Blank
import Surrogates.Text.Identifier

namespace Surrogates.Text

/-! ## §1 Tables -/

/-- Tables of which all ranges are apart have no code point in common. -/
theorem inRanges_eq_false {left right : List (Nat × Nat)}
    (h : (left.all fun a => right.all fun b => a.2 < b.1 || b.2 < a.1) = true) {code : Nat}
    (hcode : inRanges left code = true) : inRanges right code = false := by
  obtain ⟨a, ha, hin⟩ := List.any_eq_true.mp hcode
  refine List.any_eq_false.mpr fun b hb hin' => ?_
  simp only [Bool.and_eq_true, decide_eq_true_eq] at hin hin'
  have hapart := List.all_eq_true.mp (List.all_eq_true.mp h a ha) b hb
  simp only [Bool.or_eq_true, decide_eq_true_eq] at hapart
  omega

/-- The blanks by their code points. -/
def blankRanges : List (Nat × Nat) :=
  [(9, 13), (0x20, 0x20), (0x85, 0x85), (0xA0, 0xA0), (0x1680, 0x1680), (0x2000, 0x200A),
   (0x200E, 0x200E), (0x200F, 0x200F), (0x2028, 0x2028), (0x2029, 0x2029), (0x202F, 0x202F),
   (0x205F, 0x205F), (0x3000, 0x3000)]

theorem inRanges_of_isBlank {c : Char} (h : isBlank c = true) :
    inRanges blankRanges c.toNat = true := by
  simp only [isBlank, inRanges, blankRanges, List.any_cons, List.any_nil, Bool.or_eq_true,
    Bool.and_eq_true, decide_eq_true_eq, beq_iff_eq, Bool.or_false, or_assoc] at h ⊢
  simpa only [Nat.le_antisymm_iff, and_comm] using h

namespace Identifier

/-! ## §2 Starts of identifiers -/

theorem le_toNat_of_isWordStart {c : Char} (h : isWordStart c = true) : 65 ≤ c.toNat := by
  have h : (decide (c.val ≥ 'A'.val ∧ c.val ≤ 'Z'.val)
      || decide (c.val ≥ 'a'.val) && decide (c.val ≤ 'z'.val) || c == '_') = true := h
  simp only [Bool.or_eq_true, Bool.and_eq_true, decide_eq_true_eq, beq_iff_eq] at h
  rcases h with (h | h) | rfl
  · exact UInt32.le_iff_toNat_le.mp h.1
  · exact Nat.le_trans (by decide) (UInt32.le_iff_toNat_le.mp h.1)
  · decide

theorem isBlank_eq_false_of_isStart {c : Char} (h : isStart c = true) : isBlank c = false := by
  cases hblank : isBlank c with
  | false => rfl
  | true =>
    unfold isStart at h
    split at h
    · next hascii =>
      have hle := le_toNat_of_isWordStart h
      have hnone : isBlank c = false := by
        simp only [isBlank, Bool.or_eq_false_iff, Bool.and_eq_false_iff, decide_eq_false_iff_not,
          beq_eq_false_iff_ne]
        omega
      rw [hnone] at hblank
      cases hblank
    · rw [inRanges_eq_false (by decide +kernel) (inRanges_of_isBlank hblank)] at h
      cases h

theorem isDigit_eq_false_of_isStart {c : Char} (h : isStart c = true) : c.isDigit = false := by
  cases hdigit : c.isDigit with
  | false => rfl
  | true =>
    simp only [Char.isDigit, Bool.and_eq_true, decide_eq_true_eq] at hdigit
    have hle : c.toNat ≤ 57 := UInt32.le_iff_toNat_le.mp hdigit.2
    rw [isStart, if_pos (by omega)] at h
    have := le_toNat_of_isWordStart h
    omega

theorem isBlank_eq_false_of_isDigit {c : Char} (h : c.isDigit = true) : isBlank c = false := by
  simp only [Char.isDigit, Bool.and_eq_true, decide_eq_true_eq] at h
  have hle : 48 ≤ c.toNat := UInt32.le_iff_toNat_le.mp h.1
  have hge : c.toNat ≤ 57 := UInt32.le_iff_toNat_le.mp h.2
  simp only [isBlank, Bool.or_eq_false_iff, Bool.and_eq_false_iff, decide_eq_false_iff_not,
    beq_eq_false_iff_ne]
  omega

theorem ne_of_isStart {c d : Char} (h : isStart c = true) (hd : isStart d = false) : c ≠ d := by
  rintro rfl
  rw [h] at hd
  cases hd

theorem ne_of_isContinue {c d : Char} (h : isContinue c = true) (hd : isContinue d = false) :
    c ≠ d := by
  rintro rfl
  rw [h] at hd
  cases hd

end Identifier

end Surrogates.Text
