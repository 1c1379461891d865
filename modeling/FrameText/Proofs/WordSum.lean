import FrameText.Checksum
import FrameText.Proofs.HeaderCodec

/-!
# Word sums — what the Internet checksum computes

RFC 1071 describes the checksum by one's complement addition of words; the encoder adds all words
first and brings the carries back in at the end.  Here we

1. define the plain sum of words `wordSum` and the one's complement sum `onesSum`,
2. show that folding the plain sum gives the one's complement sum,
3. show that filling in a checksum makes the sum a multiple of 65535, wherever the checksum stands.
-/

namespace FrameText

open Bytes

namespace Checksum

/-! ## Sums of words -/

/-- The sum of the bytes as big-endian words; an odd byte at the end is the high half of a word. -/
def wordSum : Bytes → Nat
  | [] => 0
  | [high] => high.toNat * 256
  | high :: low :: rest => high.toNat * 256 + low.toNat + wordSum rest

/-- One's complement addition: the carry out of sixteen bits is added at the low end. -/
def onesAdd (a b : Nat) : Nat :=
  (a + b) % 65536 + (a + b) / 65536

/-- The one's complement sum of the bytes as big-endian words. -/
def onesSum : Bytes → Nat
  | [] => 0
  | [high] => high.toNat * 256
  | high :: low :: rest => onesAdd (high.toNat * 256 + low.toNat) (onesSum rest)

/-- The checksum as RFC 1071 defines it. -/
def reference (data : Bytes) : Nat :=
  65535 - onesSum data

/-- The representative of a sum among the numbers of sixteen bits: only zero has zero. -/
def representative (sum : Nat) : Nat :=
  if sum = 0 then 0 else (sum - 1) % 65535 + 1

theorem sumWords_eq (sum : Nat) (bytes : Bytes) : sumWords sum bytes = sum + wordSum bytes := by
  fun_induction sumWords sum bytes with
  | case1 sum => rfl
  | case2 sum high => rfl
  | case3 sum high low rest ih =>
    rw [ih, wordSum]
    omega

theorem wordSum_append {front : Bytes} (even : front.length % 2 = 0) (back : Bytes) :
    wordSum (front ++ back) = wordSum front + wordSum back := by
  fun_induction wordSum front with
  | case1 => rw [List.nil_append, Nat.zero_add]
  | case2 high => cases even
  | case3 high low rest ih =>
    have restEven : rest.length % 2 = 0 := by
      rw [List.length_cons, List.length_cons] at even
      omega
    rw [List.cons_append, List.cons_append, wordSum, ih restEven]
    omega

/-! ## Carries -/

theorem onesAdd_representative {word : Nat} (small : word < 65536) (sum : Nat) :
    onesAdd word (representative sum) = representative (word + sum) := by
  unfold onesAdd representative
  by_cases none : sum = 0
  · subst none
    by_cases zero : word = 0
    · subst zero
      rfl
    · rw [if_pos rfl, if_neg (by omega)]
      omega
  · rw [if_neg none, if_neg (by omega)]
    have low : (sum - 1) % 65535 < 65535 := Nat.mod_lt _ (by omega)
    omega

theorem onesSum_eq (bytes : Bytes) : onesSum bytes = representative (wordSum bytes) := by
  have single : ∀ word, word < 65536 → word = representative word := by
    intro word small
    unfold representative
    split <;> omega
  fun_induction wordSum bytes with
  | case1 => rfl
  | case2 high =>
    have small : high.toNat * 256 < 65536 := by
      have := high.toNat_lt
      omega
    exact single _ small
  | case3 high low rest ih =>
    have := high.toNat_lt
    have := low.toNat_lt
    rw [onesSum, ih, onesAdd_representative (by omega)]

/-- Bringing a carry back in changes a sum by a multiple of 65535. -/
theorem fold_mod (sum : Nat) : fold sum % 65535 = sum % 65535 := by
  fun_induction fold sum with
  | case1 sum small => rfl
  | case2 sum large ih =>
    rw [ih]
    omega

theorem fold_eq (sum : Nat) : fold sum = representative sum := by
  -- Zero and 65535 are the same residue; only a sum of zero is folded to zero.
  have zero : fold sum = 0 ↔ sum = 0 := by
    fun_induction fold sum with
    | case1 sum small => rfl
    | case2 sum large ih =>
      rw [ih]
      omega
  have small := fold_lt sum
  have same := fold_mod sum
  unfold representative
  split
  · rename_i none
    exact zero.2 none
  · rename_i some
    have positive : fold sum ≠ 0 := fun none => some (zero.1 none)
    omega

theorem toNat_complement (sum : Nat) : (complement sum).toNat = 65535 - fold sum :=
  UInt16.toNat_ofNat_of_lt' (Nat.lt_of_le_of_lt (Nat.sub_le _ _) (Nat.lt_succ_self 65535))

/-- Folding at the end gives the checksum that one's complement addition gives. -/
theorem toNat_ofBytes (data : Bytes) : (ofBytes data).toNat = reference data := by
  rw [ofBytes, toNat_complement, fold_eq, sumWords_eq, Nat.zero_add, reference, onesSum_eq]

/-- A sum and its complement make a multiple of 65535. -/
theorem add_complement_mod (sum : Nat) : (sum + (complement sum).toNat) % 65535 = 0 := by
  have small := fold_lt sum
  have same := fold_mod sum
  rw [toNat_complement]
  omega

/-- The other form of zero changes no sum. -/
theorem add_wireChecksum_mod (sum : Nat) :
    (sum + (UdpHeader.wireChecksum (complement sum)).toNat) % 65535 = 0 := by
  have whole := add_complement_mod sum
  unfold UdpHeader.wireChecksum
  split
  · rename_i zero
    rw [zero] at whole
    have twin : (0xFFFF : UInt16).toNat = 65535 := rfl
    have none : (0 : UInt16).toNat = 0 := rfl
    omega
  · exact whole

theorem isValid_of_mod {data : Bytes} (whole : wordSum data % 65535 = 0) : isValid data = true := by
  have value : (ofBytes data).toNat = 65535 - fold (wordSum data) := by
    rw [ofBytes, toNat_complement, sumWords_eq, Nat.zero_add]
  have same := fold_mod (wordSum data)
  have small := fold_lt (wordSum data)
  -- Of the numbers of sixteen bits, two are multiples of 65535.
  have either : (ofBytes data).toNat = 0 ∨ (ofBytes data).toNat = 65535 := by omega
  unfold isValid
  rw [Bool.or_eq_true, beq_iff_eq, beq_iff_eq]
  rcases either with zero | twin
  · exact .inl (UInt16.toNat_inj.1 zero)
  · exact .inr (UInt16.toNat_inj.1 twin)

/-! ## Filling in a word -/

theorem wordSum_beBytes_two {n : Nat} (small : n < 65536) : wordSum (beBytes 2 n) = n := by
  simp only [beBytes, List.nil_append, List.cons_append, wordSum, UInt8.toNat_ofNat']
  omega

theorem wordSum_ofUInt16 (w : UInt16) : wordSum (ofUInt16 w) = w.toNat :=
  wordSum_beBytes_two w.toNat_lt

/-- A word that is written at an even offset over a cleared word adds its value to the sum. -/
theorem wordSum_overwrite {bytes : Bytes} {offset : Nat} (even : offset % 2 = 0)
    (fits : offset + 2 ≤ bytes.length) (w : UInt16) :
    wordSum (overwrite bytes offset (ofUInt16 w)) =
      wordSum (overwrite bytes offset [0, 0]) + w.toNat := by
  -- At an even offset, the words of the three parts are words of the whole.
  have front : (bytes.take offset).length % 2 = 0 := by
    rw [List.length_take, Nat.min_eq_left (by omega)]
    exact even
  have word := length_ofUInt16 w
  have zeros : ([0, 0] : Bytes).length = 2 := rfl
  have none : wordSum ([0, 0] : Bytes) = 0 := rfl
  rw [overwrite, overwrite, word, zeros, List.append_assoc, List.append_assoc,
    wordSum_append front, wordSum_append front, wordSum_append (by rw [word]),
    wordSum_append (by rw [zeros]), wordSum_ofUInt16, none]
  omega

end Checksum

end FrameText
