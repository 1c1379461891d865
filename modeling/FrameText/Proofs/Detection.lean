import FrameText.Proofs.Registers
import Mathlib.Data.List.Basic

/-!
# Detection — what a checksum tells about data

The checksum is arithmetic modulo 65535, in which the words 0 and 65535 are the same.

1. `Checksum.isValid_iff`: data is valid exactly where its word sum is a multiple of 65535.
2. `Checksum.wordSum_overwrite_add`: a word that is written over another one changes the sum by
   their difference.
3. `Checksum.isValid_overwrite_iff`: of the changes of one word in valid data, only an exchange of
   the two zeros goes unnoticed.
4. `Checksum.ofBytes_arithmetic` puts these together with the run in a register.
-/

namespace FrameText

open Bytes

namespace Checksum

/-! ## Definitions -/

/-- Whether two words are the two forms of zero. -/
def Twins (a b : Bytes) : Prop :=
  a = [0, 0] ∧ b = [0xFF, 0xFF] ∨ a = [0xFF, 0xFF] ∧ b = [0, 0]

/-! ## Valid data -/

theorem isValid_iff {data : Bytes} : isValid data = true ↔ 65535 ∣ wordSum data := by
  constructor
  · intro valid
    have same := fold_mod (wordSum data)
    have small := fold_lt (wordSum data)
    have value : (ofBytes data).toNat = 65535 - fold (wordSum data) := by
      rw [ofBytes_eq_complement, toNat_complement]
    rw [isValid, Bool.or_eq_true, beq_iff_eq, beq_iff_eq] at valid
    apply Nat.dvd_of_mod_eq_zero
    -- Either checksum says that the folded sum is one of the two zeros.
    rcases valid with zero | twin
    · rw [zero, UInt16.toNat_zero] at value
      omega
    · rw [twin, show (0xFFFF : UInt16).toNat = 65535 from rfl] at value
      omega
  · intro whole
    exact isValid_of_mod (Nat.mod_eq_zero_of_dvd whole)

/-- The checksum from the sum: only a sum of zero has a checksum of 65535. -/
theorem toNat_ofBytes_eq (data : Bytes) :
    (ofBytes data).toNat =
      if wordSum data = 0 then 0xFFFF else 0xFFFF - ((wordSum data - 1) % 65535 + 1) := by
  rw [ofBytes_eq_complement, toNat_complement, fold_eq, representative]
  split <;> rfl

/-- Data that holds its own checksum in a field that was cleared for it is valid. -/
theorem isValid_overwrite_ofBytes {cleared : Bytes} {offset : Nat} (even : offset % 2 = 0)
    (fits : offset + 2 ≤ cleared.length) (zero : overwrite cleared offset [0, 0] = cleared) :
    isValid (overwrite cleared offset (ofUInt16 (ofBytes cleared))) = true := by
  apply isValid_of_mod
  rw [wordSum_overwrite even fits, zero, ofBytes_eq_complement]
  exact add_complement_mod _

/-! ## Words of data -/

section Change

variable {data word a b : Bytes} {offset : Nat}

/-- The sum falls into those of a word and of what stands around it; the word is cut short at an odd
end. -/
theorem wordSum_split (even : offset % 2 = 0) (inside : offset < data.length) :
    wordSum data =
      wordSum (data.take offset) +
        (wordSum (slice data offset 2) + wordSum (data.drop (offset + 2))) := by
  have front : (data.take offset).length % 2 = 0 := by
    rw [List.length_take, Nat.min_eq_left (Nat.le_of_lt inside)]
    exact even
  have parts : wordSum (slice data offset 2 ++ data.drop (offset + 2)) =
      wordSum (slice data offset 2) + wordSum (data.drop (offset + 2)) := by
    by_cases whole : offset + 2 ≤ data.length
    · exact wordSum_append (by rw [length_slice whole]) _
    · -- Nothing stands behind a word that is cut short.
      rw [List.drop_eq_nil_of_le (by omega), List.append_nil, wordSum, Nat.add_zero]
  calc
    wordSum data
        = wordSum (data.take offset ++ (slice data offset 2 ++ data.drop (offset + 2))) := by
      rw [take_append_slice_append_drop]
    _ = wordSum (data.take offset) + wordSum (slice data offset 2 ++ data.drop (offset + 2)) :=
      wordSum_append front _
    _ = _ := by rw [parts]

/-- A word has two bytes, or one at an odd end. -/
theorem length_word (data : Bytes) (offset : Nat) :
    (slice data offset 2).length = min 2 (data.length - offset) := by
  rw [slice, List.length_take, List.length_drop]

/-- A word that is written over another one of its length takes its place in the sum. -/
theorem wordSum_overwrite_add (even : offset % 2 = 0) (inside : offset < data.length)
    (width : word.length = (slice data offset 2).length) :
    wordSum (overwrite data offset word) + wordSum (slice data offset 2) =
      wordSum data + wordSum word := by
  have short := length_word data offset
  have length : (overwrite data offset word).length = data.length := length_overwrite (by omega)
  have front : (overwrite data offset word).take offset = data.take offset :=
    take_overwrite (Nat.le_refl offset) (Nat.le_of_lt inside)
  have back : (overwrite data offset word).drop (offset + 2) = data.drop (offset + 2) :=
    drop_overwrite (by omega) (Nat.le_of_lt inside)
  have there : slice (overwrite data offset word) offset 2 = word := by
    rw [slice, drop_overwrite_self (Nat.le_of_lt inside)]
    by_cases whole : word.length = 2
    · exact List.take_left' whole
    · rw [List.drop_eq_nil_of_le (by omega), List.append_nil, List.take_of_length_le (by omega)]
  have before := wordSum_split even inside
  have after := @wordSum_split (overwrite data offset word) offset even (length ▸ inside)
  rw [front, back, there] at after
  omega

/-- Words of one length are told apart by their values. -/
theorem eq_of_wordSum_eq (same : wordSum a = wordSum b) (width : a.length = b.length)
    (short : b.length ≤ 2) : a = b := by
  rcases (show b.length = 0 ∨ b.length = 1 ∨ b.length = 2 by omega) with zero | one | two
  · rw [List.length_eq_zero_iff.1 (width.trans zero), List.length_eq_zero_iff.1 zero]
  · obtain ⟨x, rfl⟩ := List.length_eq_one_iff.1 (width.trans one)
    obtain ⟨y, rfl⟩ := List.length_eq_one_iff.1 one
    simp only [wordSum] at same
    have high : x.toNat = y.toNat := Nat.eq_of_mul_eq_mul_right (by decide) same
    rw [UInt8.toNat_inj.1 high]
  · obtain ⟨x, x', rfl⟩ := List.length_eq_two.1 (width.trans two)
    obtain ⟨y, y', rfl⟩ := List.length_eq_two.1 two
    simp only [wordSum] at same
    have := x'.toNat_lt
    have := y'.toNat_lt
    -- The two bytes are the digits of the value.
    have high : x.toNat = y.toNat := by omega
    have low : x'.toNat = y'.toNat := by omega
    rw [UInt8.toNat_inj.1 high, UInt8.toNat_inj.1 low]

theorem wordSum_word_lt (short : a.length ≤ 2) : wordSum a ≤ 65535 := by
  apply Nat.le_trans (wordSum_le a)
  exact Nat.mul_le_mul_left 65535 (show (a.length + 1) / 2 ≤ 1 by omega)

/-- Only a whole word has the largest value, since a byte at an odd end has no low half. -/
theorem eq_ones_of_wordSum (largest : wordSum a = 65535) (short : a.length ≤ 2) :
    a = [0xFF, 0xFF] := by
  have width : a.length = 2 := by
    by_contra other
    rcases (show a.length = 0 ∨ a.length = 1 by omega) with zero | one
    · rw [List.length_eq_zero_iff.1 zero] at largest
      cases largest
    · obtain ⟨x, rfl⟩ := List.length_eq_one_iff.1 one
      rw [wordSum] at largest
      omega
  exact eq_of_wordSum_eq largest width (Nat.le_refl 2)

/-- Modulo 65535, only the two zeros are the same. -/
theorem wordSum_mod_eq_iff (width : a.length = b.length) (short : b.length ≤ 2) :
    wordSum a % 65535 = wordSum b % 65535 ↔ a = b ∨ Twins a b := by
  have first := wordSum_word_lt (show a.length ≤ 2 by omega)
  have second := wordSum_word_lt short
  constructor
  · intro same
    -- Two values up to 65535 that differ are 0 and 65535.
    by_cases equal : wordSum a = wordSum b
    · exact .inl (eq_of_wordSum_eq equal width short)
    · right
      by_cases larger : wordSum a < wordSum b
      · have ones := eq_ones_of_wordSum (show wordSum b = 65535 by omega) short
        subst ones
        have zeros := @eq_of_wordSum_eq a [0, 0] (show wordSum a = 0 by omega) width (Nat.le_refl 2)
        exact .inl ⟨zeros, rfl⟩
      · have ones := eq_ones_of_wordSum (show wordSum a = 65535 by omega) (by omega)
        subst ones
        have zeros := @eq_of_wordSum_eq b [0, 0] (show wordSum b = 0 by omega) width.symm
          (Nat.le_refl 2)
        exact .inr ⟨rfl, zeros⟩
  · rintro (rfl | ⟨rfl, rfl⟩ | ⟨rfl, rfl⟩)
    · rfl
    · rfl
    · rfl

/-- Valid data stays valid under a change of one word exactly where the word is the same or the two
zeros are exchanged. -/
theorem isValid_overwrite_iff (valid : isValid data = true) (even : offset % 2 = 0)
    (inside : offset < data.length) (width : word.length = (slice data offset 2).length) :
    isValid (overwrite data offset word) = true ↔
      word = slice data offset 2 ∨ Twins word (slice data offset 2) := by
  have change := wordSum_overwrite_add even inside width
  have whole := Nat.mod_eq_zero_of_dvd (isValid_iff.1 valid)
  have short : (slice data offset 2).length ≤ 2 := by
    rw [length_word]
    exact Nat.min_le_left _ _
  rw [← wordSum_mod_eq_iff width short, isValid_iff, Nat.dvd_iff_mod_eq_zero]
  omega

end Change

/-! ## The checksum of short data -/

/-- For data of at most 128 KiB with the word sum `S`: a register of 32 bits holds `S` and the loop
behind it ends with the checksum, which is 65535 for `S = 0` and otherwise 65535 less the residue of
`S` from 1 to 65535; data is valid exactly where 65535 divides `S`; a checksum that is filled into a
cleared field makes it valid; and a change of one word makes valid data invalid, unless the two
zeros are exchanged. -/
theorem ofBytes_arithmetic {data : Bytes} (short : data.length ≤ 131072) :
    Register.Holds (Register.addWords? 0 data) (wordSum data) ∧
    Register.Computes (Register.addWords? 0 data) (ofBytes data) ∧
    (ofBytes data).toNat =
      (if wordSum data = 0 then 0xFFFF else 0xFFFF - ((wordSum data - 1) % 65535 + 1)) ∧
    (isValid data = true ↔ 65535 ∣ wordSum data) ∧
    (∀ offset, offset % 2 = 0 → offset + 2 ≤ data.length →
      let cleared := overwrite data offset [0, 0]
      isValid (overwrite cleared offset (ofUInt16 (ofBytes cleared))) = true) ∧
    (isValid data = true → ∀ offset word, offset % 2 = 0 → offset < data.length →
      word.length = (slice data offset 2).length →
      (isValid (overwrite data offset word) = true ↔
        word = slice data offset 2 ∨ Twins word (slice data offset 2))) := by
  refine ⟨?_, Register.computes_ofBytes short, toNat_ofBytes_eq data, isValid_iff, ?_, ?_⟩
  · exact Register.holds_wordSum short
  · intro offset even fits cleared
    have length : cleared.length = data.length := length_overwrite fits
    apply isValid_overwrite_ofBytes even (by omega)
    exact overwrite_overwrite rfl (by omega)
  · intro valid offset word even inside width
    exact isValid_overwrite_iff valid even inside width

/-- A header with its checksum filled in.  Its last word cannot be changed, while its first one,
which is zero, can be exchanged for the other zero. -/
theorem ofBytes_arithmetic_header :
    let data : Bytes := [0x00, 0x00, 0x45, 0x00, 0xBA, 0xC3, 0x00, 0x3C]
    data.length ≤ 131072 ∧ isValid data = true ∧
      isValid (overwrite data 6 [0x00, 0x3D]) = false ∧
      isValid (overwrite data 0 [0xFF, 0xFF]) = true := by
  intro data
  have short : data.length ≤ 131072 := by decide
  have valid : isValid data = true := by decide +kernel
  obtain ⟨-, -, -, -, -, detects⟩ := ofBytes_arithmetic short
  have last := detects valid 6 [0x00, 0x3D] rfl (by decide) rfl
  have first := detects valid 0 [0xFF, 0xFF] rfl (by decide) rfl
  refine ⟨short, valid, ?_, first.2 (.inr (.inr ⟨rfl, rfl⟩))⟩
  rw [Bool.eq_false_iff]
  intro unnoticed
  rcases last.1 unnoticed with same | ⟨impossible, -⟩ | ⟨impossible, -⟩
  · exact absurd same (by decide)
  · exact absurd impossible (by decide)
  · exact absurd impossible (by decide)

end Checksum

end FrameText
