import FrameText.Proofs.SegmentChecksums

/-!
# Registers — checksums in 32 bits

The checksum of data is computed in a register of 32 bits, which holds the sum of all words before
any carry is brought back in.

1. `Register.add?` is an addition that is refused where the register overflows, and
   `Register.addWords?` adds data word by word with it.
2. `Register.Folds` are the runs of the loop that brings the carries back in.  A run is finite, so
   that the loop ends where there is one.
3. `Register.Holds.computes` says that a register with the right sum ends up with the checksum.
4. `Checksum.over_eq_ofBytes`: a transport checksum is the checksum of the explicit pseudo-header in
   front of the segment, and no addition on the way overflows.
-/

namespace FrameText

open Bytes

namespace Checksum

/-! ## Definitions -/

namespace Register

/-- The sum of two registers, unless it has more than 32 bits. -/
def add? (a b : UInt32) : Option UInt32 :=
  if a.toNat + b.toNat < 0x100000000 then some (a + b) else none

/-- Adds bytes to a running sum as big-endian words; an odd byte at the end is the high half of a
word. -/
def addWords? : UInt32 → Bytes → Option UInt32
  | sum, [] => some sum
  | sum, [high] => add? sum (UInt32.ofNat (high.toNat * 256))
  | sum, high :: low :: rest => do
    addWords? (← add? sum (UInt32.ofNat (high.toNat * 256 + low.toNat))) rest

/-- The runs of the loop that brings carries back in: it ends once the upper half of the register is
empty, and adds that half to the lower one until then. -/
inductive Folds : UInt32 → UInt32 → Prop where
  | done {sum : UInt32} : sum >>> 16 = 0 → Folds sum sum
  | round {sum next result : UInt32} : sum >>> 16 ≠ 0 →
      add? (sum &&& 0xFFFF) (sum >>> 16) = some next → Folds next result → Folds sum result

/-- Whether the additions go well and have this sum. -/
def Holds (sum? : Option UInt32) (n : Nat) : Prop :=
  ∃ sum, sum? = some sum ∧ sum.toNat = n

/-- Whether the additions go well and the loop behind them ends with this checksum. -/
def Computes (sum? : Option UInt32) (checksum : UInt16) : Prop :=
  ∃ sum result, sum? = some sum ∧ Folds sum result ∧ checksum = (~~~result).toUInt16

/-- The additions for a transport segment behind an IPv4 header, in their order. -/
def sumOverIPv4? (source destination : IPv4Address) (protocol : UInt8) (segment : Bytes) :
    Option UInt32 := do
  let sum ← addWords? 0 source.octets
  let sum ← addWords? sum destination.octets
  let sum ← add? sum protocol.toUInt32
  let sum ← add? sum (UInt32.ofNat segment.length &&& 0xFFFF)
  addWords? sum segment

/-- The additions for a transport segment behind an IPv6 header, in their order. -/
def sumOverIPv6? (source destination : IPv6Address) (nextHeader : UInt8) (segment : Bytes) :
    Option UInt32 := do
  let sum ← addWords? 0 source.octets
  let sum ← addWords? sum destination.octets
  let sum ← add? sum (UInt32.ofNat segment.length >>> 16)
  let sum ← add? sum (UInt32.ofNat segment.length &&& 0xFFFF)
  let sum ← add? sum nextHeader.toUInt32
  addWords? sum segment

end Register

/-! ## Bounds of sums -/

/-- No word is greater than 65535. -/
theorem wordSum_le (bytes : Bytes) : wordSum bytes ≤ 65535 * ((bytes.length + 1) / 2) := by
  fun_induction wordSum bytes with
  | case1 => exact Nat.zero_le _
  | case2 high =>
    have := high.toNat_lt
    rw [List.length_singleton]
    omega
  | case3 high low rest ih =>
    have := high.toNat_lt
    have := low.toNat_lt
    -- Two bytes more are one word more.
    have count : (rest.length + 1 + 1 + 1) / 2 = (rest.length + 1) / 2 + 1 := by omega
    rw [List.length_cons, List.length_cons, count, Nat.mul_add]
    omega

/-- Data of at most 128 KiB has a sum of at most 32 bits. -/
theorem wordSum_lt {bytes : Bytes} (short : bytes.length ≤ 131072) :
    wordSum bytes < 0x100000000 := by
  calc
    wordSum bytes ≤ 65535 * ((bytes.length + 1) / 2) := wordSum_le bytes
    _ ≤ 65535 * 65536 := Nat.mul_le_mul_left _ (by omega)
    _ < 0x100000000 := by decide

namespace Register

variable {sum : UInt32} {n : Nat}

/-! ## Additions -/

/-- The halves of a register. -/
theorem toNat_lower (sum : UInt32) : (sum &&& 0xFFFF).toNat = sum.toNat % 65536 := by
  rw [UInt32.toNat_and]
  exact Nat.and_two_pow_sub_one_eq_mod sum.toNat 16

theorem toNat_upper (sum : UInt32) : (sum >>> 16).toNat = sum.toNat / 65536 := by
  rw [UInt32.toNat_shiftRight]
  exact Nat.shiftRight_eq_div_pow sum.toNat 16

theorem holds_add {a b : UInt32} (fits : a.toNat + b.toNat < 0x100000000) :
    Holds (add? a b) (a.toNat + b.toNat) := by
  refine ⟨a + b, if_pos fits, ?_⟩
  rw [UInt32.toNat_add]
  exact Nat.mod_eq_of_lt fits

/-- Additions that go well can be followed by others. -/
theorem Holds.bind {sum? : Option UInt32} {next? : UInt32 → Option UInt32} {m : Nat}
    (first : Holds sum? n) (others : ∀ s, s.toNat = n → Holds (next? s) m) :
    Holds (sum? >>= next?) m := by
  obtain ⟨s, held, value⟩ := first
  obtain ⟨total, added, result⟩ := others s value
  exact ⟨total, by rw [held]; exact added, result⟩

/-- The register holds the true sum all the way, if it does so at the end. -/
theorem holds_addWords {bytes : Bytes} (fits : sum.toNat + wordSum bytes < 0x100000000) :
    Holds (addWords? sum bytes) (sum.toNat + wordSum bytes) := by
  fun_induction addWords? sum bytes with
  | case1 sum => exact ⟨sum, rfl, rfl⟩
  | case2 sum high =>
    have small := high.toNat_lt
    have word : (UInt32.ofNat (high.toNat * 256)).toNat = high.toNat * 256 :=
      UInt32.toNat_ofNat_of_lt' (by rw [UInt32.size]; omega)
    rw [wordSum] at fits ⊢
    obtain ⟨s, added, value⟩ := @holds_add sum (UInt32.ofNat (high.toNat * 256)) (by omega)
    exact ⟨s, added, by omega⟩
  | case3 sum high low rest ih =>
    have smallHigh := high.toNat_lt
    have smallLow := low.toNat_lt
    have word : (UInt32.ofNat (high.toNat * 256 + low.toNat)).toNat =
        high.toNat * 256 + low.toNat :=
      UInt32.toNat_ofNat_of_lt' (by rw [UInt32.size]; omega)
    rw [wordSum] at fits ⊢
    obtain ⟨next, added, value⟩ :=
      @holds_add sum (UInt32.ofNat (high.toNat * 256 + low.toNat)) (by omega)
    -- The words behind are added to a sum that is still right.
    obtain ⟨s, others, total⟩ := ih next (by omega)
    exact ⟨s, by rw [added]; exact others, by omega⟩

/-! ## Carries -/

/-- The loop ends from every register, with the folded sum. -/
theorem exists_folds (sum : UInt32) :
    ∃ result, Folds sum result ∧ result.toNat = fold sum.toNat := by
  have upper := toNat_upper sum
  have lower := toNat_lower sum
  -- The induction is on the rounds of the loop, each of which makes the number smaller.
  induction value : sum.toNat using fold.induct generalizing sum with
  | case1 n small =>
    have empty : sum >>> 16 = 0 := by
      apply UInt32.toNat_inj.1
      rw [upper, value, UInt32.toNat_zero]
      exact Nat.div_eq_of_lt small
    exact ⟨sum, .done empty, by rw [value, fold, if_pos small]⟩
  | case2 n large ih =>
    have full : sum >>> 16 ≠ 0 := by
      intro empty
      rw [empty, UInt32.toNat_zero] at upper
      omega
    have width := sum.toNat_lt
    -- Two numbers of 16 bits do not overflow a register of 32.
    obtain ⟨next, added, total⟩ := @holds_add (sum &&& 0xFFFF) (sum >>> 16) (by omega)
    rw [lower, upper, value] at total
    obtain ⟨result, others, folded⟩ := ih next (toNat_upper next) (toNat_lower next) total
    exact ⟨result, .round full added others, by rw [fold, if_neg large, folded]⟩

/-- A register that holds the sum ends up with the checksum. -/
theorem Holds.computes {sum? : Option UInt32} (sum : Holds sum? n) :
    Computes sum? (complement n) := by
  obtain ⟨s, held, value⟩ := sum
  obtain ⟨result, folds, folded⟩ := exists_folds s
  refine ⟨s, result, held, folds, ?_⟩
  apply UInt16.toNat_inj.1
  have small := fold_lt n
  have large := result.toNat_lt
  rw [toNat_complement, UInt32.toNat_toUInt16, UInt32.toNat_not, UInt32.size, folded, value]
  omega

/-! ## Transport checksums -/

section Transport

variable {protocol : UInt8} {segment : Bytes}

/-- The halves of the length of a segment. -/
theorem toNat_length (short : segment.length ≤ 65535) :
    (UInt32.ofNat segment.length &&& 0xFFFF).toNat = segment.length ∧
      (UInt32.ofNat segment.length >>> 16).toNat = 0 := by
  have value : (UInt32.ofNat segment.length).toNat = segment.length :=
    UInt32.toNat_ofNat_of_lt' (by rw [UInt32.size]; omega)
  rw [toNat_lower, toNat_upper, value]
  omega

/-- A segment of 16 bits leaves half of the register to the pseudo-header. -/
theorem wordSum_segment_le (short : segment.length ≤ 65535) :
    wordSum segment ≤ 65535 * 32768 := by
  apply Nat.le_trans (wordSum_le segment)
  exact Nat.mul_le_mul_left 65535 (by omega)

theorem holds_sumOverIPv4 (source destination : IPv4Address) (short : segment.length ≤ 65535) :
    Holds (sumOverIPv4? source destination protocol segment)
      (wordSum source.octets + wordSum destination.octets + protocol.toNat + segment.length +
        wordSum segment) := by
  have sourceSum := wordSum_le source.octets
  have destinationSum := wordSum_le destination.octets
  rw [IPv4Address.length_octets] at sourceSum destinationSum
  have segmentSum := wordSum_segment_le short
  have number := protocol.toNat_lt
  have numberValue : protocol.toUInt32.toNat = protocol.toNat := UInt8.toNat_toUInt32 protocol
  obtain ⟨lengthValue, -⟩ := toNat_length short
  have zero : (0 : UInt32).toNat = 0 := rfl
  -- One step for each addition, in the order of the program.
  apply Holds.bind (holds_addWords (by omega))
  intro s₁ value₁
  apply Holds.bind (holds_addWords (by omega))
  intro s₂ value₂
  apply Holds.bind (holds_add (by omega))
  intro s₃ value₃
  apply Holds.bind (holds_add (by omega))
  intro s₄ value₄
  obtain ⟨total, added, value⟩ := @holds_addWords s₄ segment (by omega)
  exact ⟨total, added, by omega⟩

theorem holds_sumOverIPv6 (source destination : IPv6Address) (short : segment.length ≤ 65535) :
    Holds (sumOverIPv6? source destination protocol segment)
      (wordSum source.octets + wordSum destination.octets + segment.length + protocol.toNat +
        wordSum segment) := by
  have sourceSum := wordSum_le source.octets
  have destinationSum := wordSum_le destination.octets
  rw [IPv6Address.length_octets] at sourceSum destinationSum
  have segmentSum := wordSum_segment_le short
  have number := protocol.toNat_lt
  have numberValue : protocol.toUInt32.toNat = protocol.toNat := UInt8.toNat_toUInt32 protocol
  obtain ⟨lengthValue, upperValue⟩ := toNat_length short
  have zero : (0 : UInt32).toNat = 0 := rfl
  apply Holds.bind (holds_addWords (by omega))
  intro s₁ value₁
  apply Holds.bind (holds_addWords (by omega))
  intro s₂ value₂
  -- The upper half of the length is empty.
  apply Holds.bind (holds_add (by omega))
  intro s₃ value₃
  apply Holds.bind (holds_add (by omega))
  intro s₄ value₄
  apply Holds.bind (holds_add (by omega))
  intro s₅ value₅
  obtain ⟨total, added, value⟩ := @holds_addWords s₅ segment (by omega)
  exact ⟨total, added, by omega⟩

end Transport

end Register

/-! ## Explicit pseudo-headers -/

section Explicit

open Register

variable {protocol : UInt8} {segment pseudo : Bytes}

theorem ofBytes_eq_complement (data : Bytes) : ofBytes data = complement (wordSum data) := by
  rw [ofBytes, sumWords_eq, Nat.zero_add]

/-- The words of short data are added without an overflow. -/
theorem Register.holds_wordSum {data : Bytes} (short : data.length ≤ 131072) :
    Holds (addWords? 0 data) (wordSum data) := by
  have fits := wordSum_lt short
  have zero : (0 : UInt32).toNat = 0 := rfl
  have sum : Holds (addWords? 0 data) ((0 : UInt32).toNat + wordSum data) :=
    holds_addWords (by omega)
  rw [zero, Nat.zero_add] at sum
  exact sum

theorem Register.computes_ofBytes {data : Bytes} (short : data.length ≤ 131072) :
    Computes (addWords? 0 data) (ofBytes data) := by
  rw [ofBytes_eq_complement]
  exact (holds_wordSum short).computes

/-- Bytes in front of a segment count as their own sum, if they are whole words. -/
theorem ofBytes_append (even : pseudo.length % 2 = 0) (segment : Bytes) :
    ofBytes (pseudo ++ segment) = complement (wordSum pseudo + wordSum segment) := by
  rw [ofBytes_eq_complement, wordSum_append even]

theorem length_pseudoIPv4 (source destination : IPv4Address) (length : Nat) :
    (pseudoIPv4 (source.octets ++ destination.octets) protocol length).length = 12 := by
  simp [pseudoIPv4]

theorem length_pseudoIPv6 (source destination : IPv6Address) (length : Nat) :
    (pseudoIPv6 (source.octets ++ destination.octets) protocol length).length = 40 := by
  simp [pseudoIPv6]

theorem computes_overIPv4 (source destination : IPv4Address) (short : segment.length ≤ 65535) :
    Computes (sumOverIPv4? source destination protocol segment)
      (overIPv4 source destination protocol segment) := by
  have length : segment.length % 65536 = segment.length := Nat.mod_eq_of_lt (by omega)
  simp only [overIPv4, sumWords_eq, Nat.zero_add, length]
  exact (holds_sumOverIPv4 source destination short).computes

theorem computes_overIPv6 (source destination : IPv6Address) (short : segment.length ≤ 65535) :
    Computes (sumOverIPv6? source destination protocol segment)
      (overIPv6 source destination protocol segment) := by
  have lower : segment.length % 65536 = segment.length := Nat.mod_eq_of_lt (by omega)
  have upper : segment.length / 65536 = 0 := Nat.div_eq_of_lt (by omega)
  simp only [overIPv6, sumWords_eq, Nat.zero_add, lower, upper, Nat.add_zero]
  exact (holds_sumOverIPv6 source destination short).computes

/-- The checksum of a transport segment is that of the pseudo-header, written out in front of the
segment, and neither way of computing it overflows a register of 32 bits. -/
theorem over_eq_ofBytes (protocol : UInt8) {segment : Bytes} (short : segment.length ≤ 65535) :
    (∀ source destination : IPv4Address,
      let explicit :=
        pseudoIPv4 (source.octets ++ destination.octets) protocol segment.length ++ segment
      overIPv4 source destination protocol segment = ofBytes explicit ∧
        Computes (sumOverIPv4? source destination protocol segment)
          (overIPv4 source destination protocol segment) ∧
        Computes (addWords? 0 explicit) (ofBytes explicit)) ∧
    ∀ source destination : IPv6Address,
      let explicit :=
        pseudoIPv6 (source.octets ++ destination.octets) protocol segment.length ++ segment
      overIPv6 source destination protocol segment = ofBytes explicit ∧
        Computes (sumOverIPv6? source destination protocol segment)
          (overIPv6 source destination protocol segment) ∧
        Computes (addWords? 0 explicit) (ofBytes explicit) := by
  have small : segment.length < 65536 := Nat.lt_succ_of_le short
  constructor
  · intro source destination
    have pseudo := @length_pseudoIPv4 protocol source destination segment.length
    refine ⟨?_, computes_overIPv4 source destination short, computes_ofBytes ?_⟩
    · rw [overIPv4_eq source destination small, ofBytes_append (by rw [pseudo])]
    · rw [List.length_append, pseudo]
      omega
  · intro source destination
    have pseudo := @length_pseudoIPv6 protocol source destination segment.length
    refine ⟨?_, computes_overIPv6 source destination short, computes_ofBytes ?_⟩
    · rw [overIPv6_eq source destination small, ofBytes_append (by rw [pseudo])]
    · rw [List.length_append, pseudo]
      omega

/-- A datagram of odd length between addresses of ones only, whose sum needs two rounds of
carries. -/
theorem over_eq_ofBytes_odd :
    let host : IPv6Address := ⟨0xFFFF, 0xFFFF, 0xFFFF, 0xFFFF, 0xFFFF, 0xFFFF, 0xFFFF, 0xFFFF⟩
    let segment : Bytes := [0x04, 0xD2, 0x9A, 0x0C, 0x00, 0x09, 0x00, 0x00, 0x61]
    segment.length ≤ 65535 ∧
      overIPv6 host host 17 segment =
        ofBytes (host.octets ++ host.octets ++ [0, 0, 0, 9, 0, 0, 0, 17] ++ segment) ∧
      Computes (sumOverIPv6? host host 17 segment) (overIPv6 host host 17 segment) ∧
      overIPv6 host host 17 segment = 0xFFFD := by
  intro host segment
  have short : segment.length ≤ 65535 := by decide
  have written : pseudoIPv6 (host.octets ++ host.octets) 17 segment.length =
      host.octets ++ host.octets ++ [0, 0, 0, 9, 0, 0, 0, 17] := by decide +kernel
  obtain ⟨same, computed, -⟩ := (over_eq_ofBytes 17 short).2 host host
  rw [written] at same
  exact ⟨short, same, computed, by decide +kernel⟩

end Explicit

end Checksum

end FrameText
