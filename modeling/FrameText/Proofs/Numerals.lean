import FrameText.Proofs.Words
import Mathlib.Algebra.Group.Nat.Defs

/-!
# Numerals — printed numbers are read back

1. `Spells` says that digits denote a number; `spells_decimal` and `spells_hex` say so of what is
   printed.
2. `number_decimal` and `number_hexMarked` read the two forms of a value, from which the words of
   eight to 64 bits follow.
3. `length_decimal_le` and `length_hex_le` bound the number of digits.
-/

namespace FrameText

namespace Text

variable {base n : Nat} {s t : Text}

/-! ## Digits -/

theorem toNat_digitChar {d : Nat} (small : d < 16) :
    (Nat.digitChar d).toNat = if d < 10 then 48 + d else 87 + d := by
  revert d
  decide

theorem digit?_digitChar {d : Nat} (below : d < base) (most : base ≤ 16) :
    digit? base (Nat.digitChar d) = some d := by
  have code := toNat_digitChar (Nat.lt_of_lt_of_le below most)
  unfold digit?
  by_cases decimal : d < 10
  · rw [if_pos decimal] at code
    have value : 48 + d - 48 = d := Nat.add_sub_cancel_left _ _
    simp only [code, if_pos (show 0x30 ≤ 48 + d ∧ 48 + d ≤ 0x39 by omega), value, if_pos below]
  · rw [if_neg decimal] at code
    have value : 87 + d - 0x61 + 10 = d := by omega
    simp only [code, if_neg (show ¬ (0x30 ≤ 87 + d ∧ 87 + d ≤ 0x39) by omega),
      if_neg (show ¬ (0x41 ≤ 87 + d ∧ 87 + d ≤ 0x46) by omega),
      if_pos (show 0x61 ≤ 87 + d ∧ 87 + d ≤ 0x66 by omega), value, if_pos below]

theorem isWordChar_digitChar {d : Nat} (small : d < 16) :
    isWordChar (Nat.digitChar d) = true := by
  revert d
  decide

theorem digitChar_not_mark {d : Nat} (small : d < 16) :
    Nat.digitChar d ≠ '+' ∧ Nat.digitChar d ≠ 'x' ∧ Nat.digitChar d ≠ 'X' ∧
      Nat.digitChar d ≠ ':' ∧ Nat.digitChar d ≠ '.' := by
  revert d
  decide

theorem readDigits_append (value : Nat) (s t : Text) :
    readDigits base value (s ++ t) =
      (readDigits base value s).bind fun value => readDigits base value t := by
  induction s generalizing value with
  | nil => rfl
  | cons c s ih =>
    rw [List.cons_append, readDigits, readDigits]
    cases digit? base c with
    | none => rfl
    | some d => exact ih _

theorem readDigits_digitChar {d : Nat} (below : d < base) (most : base ≤ 16) (value : Nat) :
    readDigits base value [Nat.digitChar d] = some (value * base + d) := by
  rw [readDigits, digit?_digitChar below most]
  rfl

/-! ## Numerals -/

/-- Whether a text is a non-empty row of digits that denotes this number. -/
structure Spells (base : Nat) (s : Text) (n : Nat) : Prop where
  nonempty : s ≠ []
  digits : ∀ c ∈ s, ∃ d, d < base ∧ c = Nat.digitChar d
  value : readDigits base 0 s = some n

/-- The induction follows the digits from the last one to the first. -/
theorem spells_toDigits (least : 1 < base) (most : base ≤ 16) (n : Nat) :
    Spells base (Nat.toDigits base n) n := by
  induction n using Nat.strongRecOn with
  | ind n ih =>
    rw [Nat.toDigits_eq_if least]
    by_cases single : n < base
    · rw [if_pos single]
      refine ⟨List.cons_ne_nil _ _, fun c member => ⟨n, single, List.mem_singleton.1 member⟩, ?_⟩
      rw [readDigits_digitChar single most, Nat.zero_mul, Nat.zero_add]
    · rw [if_neg single]
      have front := ih (n / base) (Nat.div_lt_self (by omega) least)
      have last : n % base < base := Nat.mod_lt _ (by omega)
      refine ⟨fun empty => front.nonempty (List.append_eq_nil_iff.1 empty).1, ?_, ?_⟩
      · intro c member
        rcases List.mem_append.1 member with inFront | atEnd
        · exact front.digits c inFront
        · exact ⟨n % base, last, List.mem_singleton.1 atEnd⟩
      · rw [readDigits_append, front.value, Option.bind_some, readDigits_digitChar last most,
          Nat.mul_comm]
        exact congrArg some (Nat.div_add_mod n base)

theorem spells_decimal (n : Nat) : Spells 10 (decimal n) n :=
  spells_toDigits (by decide) (by decide) n

/-- Zeros in front do not count. -/
theorem spells_hex (width n : Nat) : Spells 16 (hex width n) n := by
  have digits := spells_toDigits (by decide) (Nat.le_refl 16) n
  -- Zeros keep the value at zero.
  have zeros : ∀ count, readDigits 16 0 (List.replicate count '0') = some 0 := by
    intro count
    induction count with
    | zero => rfl
    | succ count ih => exact ih
  rw [hex, List.leftpad]
  refine ⟨fun empty => digits.nonempty (List.append_eq_nil_iff.1 empty).2, ?_, ?_⟩
  · intro c member
    rcases List.mem_append.1 member with zero | digit
    · exact ⟨0, by decide, List.eq_of_mem_replicate zero⟩
    · exact digits.digits c digit
  · rw [readDigits_append, zeros, Option.bind_some, digits.value]

/-- A byte has two digits. -/
theorem hex_byte : ∀ n < 256, hex 2 n = [Nat.digitChar (n / 16), Nat.digitChar (n % 16)] := by
  decide +kernel

namespace Spells

theorem isWord (spells : Spells base s n) (most : base ≤ 16) : IsWord s := by
  refine ⟨spells.nonempty, fun c member => ?_⟩
  rcases spells.digits c member with ⟨d, below, rfl⟩
  exact isWordChar_digitChar (Nat.lt_of_lt_of_le below most)

/-- None of the characters that mean something else is a digit. -/
theorem not_mem (spells : Spells base s n) (most : base ≤ 16) :
    '+' ∉ s ∧ 'x' ∉ s ∧ 'X' ∉ s ∧ ':' ∉ s ∧ '.' ∉ s := by
  have other : ∀ c ∈ s, c ≠ '+' ∧ c ≠ 'x' ∧ c ≠ 'X' ∧ c ≠ ':' ∧ c ≠ '.' := by
    intro c member
    rcases spells.digits c member with ⟨d, below, rfl⟩
    exact digitChar_not_mark (Nat.lt_of_lt_of_le below most)
  exact ⟨fun member => (other _ member).1 rfl, fun member => (other _ member).2.1 rfl,
    fun member => (other _ member).2.2.1 rfl, fun member => (other _ member).2.2.2.1 rfl,
    fun member => (other _ member).2.2.2.2 rfl⟩

theorem digits?_eq (spells : Spells base s n) : digits? base s = some n := by
  cases s with
  | nil => exact absurd rfl spells.nonempty
  | cons c s => exact spells.value

theorem unsignedBelow?_eq (spells : Spells base s n) (most : base ≤ 16) {bound : Nat}
    (below : n < bound) : unsignedBelow? base bound s = some n := by
  -- A printed number has no sign.
  have plain : unsigned? base s = digits? base s := by
    unfold unsigned?
    split
    · exact absurd List.mem_cons_self (spells.not_mem most).1
    · rfl
  rw [unsignedBelow?, plain, spells.digits?_eq, Option.filter_some]
  exact if_pos (decide_eq_true below)

end Spells

theorem hexMarked?_eq_none (small : 'x' ∉ s) (capital : 'X' ∉ s) : hexMarked? s = none := by
  unfold hexMarked?
  split
  · exact absurd (List.mem_cons_of_mem _ List.mem_cons_self) small
  · exact absurd (List.mem_cons_of_mem _ List.mem_cons_self) capital
  · rfl

theorem number?_decimal {bound : Nat} (below : n < bound) : number? bound (decimal n) = some n := by
  have spells := spells_decimal n
  rcases spells.not_mem (by decide) with ⟨-, small, capital, -, -⟩
  rw [number?, hexMarked?_eq_none small capital]
  exact spells.unsignedBelow?_eq (by decide) below

theorem number?_hexMarked {bound : Nat} (width : Nat) (below : n < bound) :
    number? bound (hexMarked width n) = some n :=
  (spells_hex width n).unsignedBelow?_eq (Nat.le_refl 16) below

theorem isWord_decimal (n : Nat) : IsWord (decimal n) :=
  (spells_decimal n).isWord (by decide)

theorem isWord_hexMarked (width n : Nat) : IsWord (hexMarked width n) := by
  have mark : IsWord ['0', 'x'] := by decide
  exact mark.append ((spells_hex width n).isWord (Nat.le_refl 16))

/-! ## The number of digits -/

theorem length_decimal_le {count : Nat} (positive : 0 < count) (small : n < 10 ^ count) :
    (decimal n).length ≤ count :=
  (Nat.length_toDigits_le_iff (by decide) positive).2 small

/-- A larger number is not shorter. -/
theorem length_decimal_mono {m : Nat} (least : n ≤ m) :
    (decimal n).length ≤ (decimal m).length := by
  have positive : 0 < (decimal m).length := List.length_pos_iff.2 (spells_decimal m).nonempty
  have small : m < 10 ^ (decimal m).length :=
    (Nat.length_toDigits_le_iff (by decide) positive).1 (Nat.le_refl _)
  exact length_decimal_le positive (Nat.lt_of_le_of_lt least small)

theorem length_hex_le {width count : Nat} (positive : 0 < count) (small : n < 16 ^ count)
    (wide : width ≤ count) : (hex width n).length ≤ count := by
  have digits : (Nat.toDigits 16 n).length ≤ count :=
    (Nat.length_toDigits_le_iff (by decide) positive).2 small
  rw [hex, List.leftpad, List.length_append, List.length_replicate]
  omega

end Text

open Text

/-! ## Values -/

section Values

variable {bound n : Nat} (key : Text)

theorem number_decimal (below : n < bound) (word : n < Limits.wordBound) :
    number bound key (decimal n) = .ok n := by
  simp only [number, (isWord_decimal n).trim, number?_decimal word, if_pos below]

theorem number_hexMarked (width : Nat) (below : n < bound) (word : n < Limits.wordBound) :
    number bound key (hexMarked width n) = .ok n := by
  simp only [number, (isWord_hexMarked width n).trim, number?_hexMarked width word, if_pos below]

theorem uint8_decimal (value : UInt8) : uint8 key (decimal value.toNat) = .ok value := by
  have below : value.toNat < 0x100 := value.toNat_lt
  rw [uint8, number_decimal key below (by rw [Limits.wordBound]; omega)]
  exact congrArg Except.ok (UInt8.ofNat_toNat)

theorem uint8_hexMarked (width : Nat) (value : UInt8) :
    uint8 key (hexMarked width value.toNat) = .ok value := by
  have below : value.toNat < 0x100 := value.toNat_lt
  rw [uint8, number_hexMarked key width below (by rw [Limits.wordBound]; omega)]
  exact congrArg Except.ok (UInt8.ofNat_toNat)

theorem uint16_decimal (value : UInt16) : uint16 key (decimal value.toNat) = .ok value := by
  have below : value.toNat < 0x10000 := value.toNat_lt
  rw [uint16, number_decimal key below (by rw [Limits.wordBound]; omega)]
  exact congrArg Except.ok (UInt16.ofNat_toNat)

theorem uint32_decimal (value : UInt32) : uint32 key (decimal value.toNat) = .ok value := by
  have below : value.toNat < 0x100000000 := value.toNat_lt
  rw [uint32, number_decimal key below (by rw [Limits.wordBound]; omega)]
  exact congrArg Except.ok (UInt32.ofNat_toNat)

theorem uint64_hexMarked (width : Nat) (value : UInt64) :
    uint64 key (hexMarked width value.toNat) = .ok value := by
  have below : value.toNat < Limits.wordBound := value.toNat_lt
  rw [uint64, number_hexMarked key width below below]
  exact congrArg Except.ok (UInt64.ofNat_toNat)

end Values

end FrameText
