import FrameText.Text.Basic
import Mathlib.Data.List.Basic

/-!
# Slices — text that is cut at places counted in bytes

A place in a text is the number of UTF-8 bytes in front of it.  Text is cut only between characters,
so that a place inside a character, or behind the end, gives nothing.

1. `splitBytes?` cuts a text at a place and `slice?` takes what stands behind one;
   `splitBytes?_eq_some_iff` and `slice?_eq_some_iff` say what they give.
2. `exists_char_of_ascii` says that a byte below 128 is a whole character, wherever it stands.
-/

namespace FrameText

namespace Text

variable {s front behind : Text} {i : Nat}

/-! ## Characters and their bytes -/

theorem utf8_cons (c : Char) (s : Text) : utf8 (c :: s) = String.utf8EncodeChar c ++ utf8 s := rfl

theorem utf8_append (s t : Text) : utf8 (s ++ t) = utf8 s ++ utf8 t :=
  List.flatMap_append

/-- Every character is a byte at least. -/
theorem byteLength_eq_zero_iff : byteLength s = 0 ↔ s = [] := by
  cases s with
  | nil => exact iff_of_true rfl rfl
  | cons c s =>
    have wide := c.utf8Size_pos
    exact iff_of_false (by simp only [byteLength_cons]; omega) (List.cons_ne_nil c s)

/-- The characters of a single byte are those below 128. -/
theorem utf8Size_eq_one_iff {c : Char} : c.utf8Size = 1 ↔ c.toNat < 128 := by
  rw [Char.utf8Size_eq_one_iff, UInt32.le_iff_toNat_le]
  exact Nat.lt_succ_iff.symm

theorem utf8EncodeChar_of_ascii {c : Char} (ascii : c.toNat < 128) :
    String.utf8EncodeChar c = [UInt8.ofNat c.toNat] :=
  if_pos (Nat.le_of_lt_succ ascii)

/-- Every byte of any other character has its highest bit set. -/
theorem le_of_mem_utf8EncodeChar {c : Char} (other : 128 ≤ c.toNat) {b : UInt8}
    (member : b ∈ String.utf8EncodeChar c) : 128 ≤ b.toNat := by
  have first : ¬ c.val.toNat ≤ 0x7F := Nat.not_le_of_lt other
  simp only [String.utf8EncodeChar, if_neg first] at member
  split_ifs at member
  all_goals
    simp only [List.mem_cons, List.not_mem_nil, or_false] at member
    rcases member with rfl | rfl | rfl | rfl <;> simp only [UInt8.toNat_ofNat'] <;> omega

/-- The byte of a character below 128 is in no other character. -/
theorem mem_utf8EncodeChar_iff {c d : Char} (ascii : d.toNat < 128) :
    UInt8.ofNat d.toNat ∈ String.utf8EncodeChar c ↔ c = d := by
  have code : (UInt8.ofNat d.toNat).toNat = d.toNat :=
    UInt8.toNat_ofNat_of_lt' (Nat.lt_trans ascii (by decide))
  by_cases single : c.toNat < 128
  · have code' : (UInt8.ofNat c.toNat).toNat = c.toNat :=
      UInt8.toNat_ofNat_of_lt' (Nat.lt_trans single (by decide))
    rw [utf8EncodeChar_of_ascii single, List.mem_singleton, ← UInt8.toNat_inj, code, code',
      Char.toNat_inj, eq_comm]
  · refine iff_of_false (fun member => ?_) (fun same => single (same ▸ ascii))
    have high := le_of_mem_utf8EncodeChar (Nat.le_of_not_lt single) member
    omega

/-- The first byte of a character tells which characters below 128 it is. -/
theorem exists_first_byte (c : Char) :
    ∃ b bytes, String.utf8EncodeChar c = b :: bytes ∧
      ∀ d : Char, d.toNat < 128 → (c = d ↔ b = UInt8.ofNat d.toNat) := by
  cases encoded : String.utf8EncodeChar c with
  | nil =>
    have wide := c.utf8Size_pos
    rw [← String.length_utf8EncodeChar, encoded] at wide
    cases wide
  | cons b bytes =>
    refine ⟨b, bytes, rfl, fun d ascii => ⟨?_, ?_⟩⟩
    · rintro rfl
      rw [utf8EncodeChar_of_ascii ascii] at encoded
      exact (List.cons.inj encoded).1.symm
    · rintro rfl
      exact (mem_utf8EncodeChar_iff ascii).1 (encoded ▸ List.mem_cons_self)

/-! ## Cuts -/

/-- Cuts a text behind this number of bytes.  The text has to be long enough, and the place must not
be inside a character. -/
def splitBytes? : Nat → Text → Option (Text × Text)
  | 0, s => some ([], s)
  | _ + 1, [] => none
  | n + 1, c :: s =>
    if c.utf8Size ≤ n + 1 then
      (splitBytes? (n + 1 - c.utf8Size) s).map fun parts => (c :: parts.1, parts.2)
    else
      none

theorem splitBytes?_eq_some_iff :
    splitBytes? i s = some (front, behind) ↔ s = front ++ behind ∧ byteLength front = i := by
  induction s generalizing i front with
  | nil =>
    cases i with
    | zero => cases front <;> simp [splitBytes?, eq_comm]
    | succ i =>
      refine iff_of_false (by simp [splitBytes?]) ?_
      rintro ⟨whole, length⟩
      rw [(List.append_eq_nil_iff.1 whole.symm).1] at length
      cases length
  | cons c s ih =>
    have wide : 0 < c.utf8Size := c.utf8Size_pos
    cases i with
    | zero =>
      cases front with
      | nil => simp [splitBytes?, eq_comm]
      | cons d front =>
        have := d.utf8Size_pos
        exact iff_of_false (by simp [splitBytes?]) (by rintro ⟨-, length⟩; simp at length; omega)
    | succ i =>
      cases front with
      | nil =>
        refine iff_of_false ?_ (by rintro ⟨-, length⟩; cases length)
        simp [splitBytes?]
      | cons d front =>
        have later := @ih front (i + 1 - c.utf8Size)
        have split : splitBytes? (i + 1) (c :: s) = some (d :: front, behind) ↔
            c.utf8Size ≤ i + 1 ∧ c = d ∧
              splitBytes? (i + 1 - c.utf8Size) s = some (front, behind) := by
          simp [splitBytes?, and_comm, and_assoc]
        rw [split, later, List.cons_append, List.cons.injEq, byteLength_cons]
        constructor
        · rintro ⟨fits, rfl, rfl, length⟩
          exact ⟨⟨rfl, rfl⟩, by omega⟩
        · rintro ⟨⟨rfl, rfl⟩, length⟩
          exact ⟨by omega, rfl, rfl, by omega⟩

/-- The characters that take up this many bytes from a place on. -/
def slice? (s : Text) (start count : Nat) : Option Text := do
  let (_, rest) ← splitBytes? start s
  let (part, _) ← splitBytes? count rest
  return part

theorem slice?_eq_some_iff {part : Text} {start count : Nat} :
    slice? s start count = some part ↔
      ∃ front behind, s = front ++ part ++ behind ∧ byteLength front = start ∧
        byteLength part = count := by
  simp only [slice?, Option.bind_eq_bind, Option.bind_eq_some_iff, Prod.exists, Option.pure_def,
    Option.some.injEq, splitBytes?_eq_some_iff]
  constructor
  · rintro ⟨front, _, ⟨rfl, start⟩, _, behind, ⟨rfl, length⟩, rfl⟩
    exact ⟨front, behind, (List.append_assoc _ _ _).symm, start, length⟩
  · rintro ⟨front, behind, rfl, start, length⟩
    exact ⟨front, part ++ behind, ⟨List.append_assoc _ _ _, start⟩, part, behind, ⟨rfl, length⟩,
      rfl⟩

theorem slice?_append (front rest : Text) (count : Nat) :
    slice? (front ++ rest) (byteLength front) count = (splitBytes? count rest).map Prod.fst := by
  simp only [slice?, splitBytes?_eq_some_iff.2 ⟨rfl, rfl⟩, Option.bind_eq_bind, Option.bind_some,
    Option.map_eq_bind]
  rfl

theorem getElem?_utf8_append (front rest : Text) (i : Nat) :
    (utf8 (front ++ rest))[byteLength front + i]? = (utf8 rest)[i]? := by
  rw [utf8_append, ← length_utf8, List.getElem?_append_right (Nat.le_add_right _ _),
    Nat.add_sub_cancel_left]

/-- A byte below 128 is a whole character. -/
theorem exists_char_of_ascii {b : UInt8} (found : (utf8 s)[i]? = some b) (ascii : b.toNat < 128) :
    ∃ front c behind, s = front ++ c :: behind ∧ byteLength front = i ∧ c.toNat = b.toNat := by
  induction s generalizing i with
  | nil => cases found
  | cons c s ih =>
    rw [utf8_cons] at found
    by_cases inside : i < (String.utf8EncodeChar c).length
    · rw [List.getElem?_append_left inside] at found
      have single : c.toNat < 128 := by
        by_contra other
        have high := le_of_mem_utf8EncodeChar (Nat.le_of_not_lt other) (List.mem_of_getElem? found)
        omega
      rw [utf8EncodeChar_of_ascii single] at found inside
      obtain rfl : i = 0 := Nat.lt_one_iff.1 inside
      obtain rfl := Option.some.inj found
      exact ⟨[], c, s, rfl, rfl, (UInt8.toNat_ofNat_of_lt' (Nat.lt_trans single (by decide))).symm⟩
    · rw [List.getElem?_append_right (Nat.le_of_not_lt inside)] at found
      obtain ⟨front, d, behind, rfl, length, code⟩ := ih found
      refine ⟨c :: front, d, behind, rfl, ?_, code⟩
      rw [String.length_utf8EncodeChar] at inside length
      rw [byteLength_cons, length]
      omega

end Text

end FrameText
