import FrameText.Address.IPv6
import FrameText.Address.Mac
import FrameText.Header.Basic

/-!
# Bytes — windows and words

Facts about `slice`, `overwrite` and the words in network byte order:

* what an overwritten window leaves alone, in front of it and behind it;
* how windows of joined lists are found in one of the two parts;
* a word that is written is read back, and the bytes that are read as a word are those that are
  written for it.
-/

namespace FrameText

namespace Bytes

/-! ## Windows -/

theorem overwrite_nil (bytes : Bytes) (offset : Nat) : overwrite bytes offset [] = bytes := by
  simp [overwrite]

/-- Bytes in front of the window stay. -/
theorem take_overwrite {bytes new : Bytes} {offset count : Nat} (inFront : count ≤ offset)
    (fits : offset ≤ bytes.length) :
    (overwrite bytes offset new).take count = bytes.take count := by
  have short : count ≤ (bytes.take offset).length := by
    rw [List.length_take]
    omega
  rw [overwrite, List.append_assoc, List.take_append_of_le_length short, List.take_take,
    Nat.min_eq_left inFront]

/-- Bytes behind the window stay. -/
theorem drop_overwrite {bytes new : Bytes} {offset count : Nat}
    (behind : offset + new.length ≤ count) (fits : offset ≤ bytes.length) :
    (overwrite bytes offset new).drop count = bytes.drop count := by
  have front : (bytes.take offset ++ new).length = offset + new.length := by
    rw [List.length_append, List.length_take, Nat.min_eq_left fits]
  rw [overwrite, List.drop_append, front, List.drop_eq_nil_of_le (by omega), List.drop_drop,
    List.nil_append]
  congr 1
  omega

/-- Overwriting from a later place on is overwriting what starts there. -/
theorem drop_overwrite_add {bytes new : Bytes} {offset shift : Nat}
    (fits : offset + shift ≤ bytes.length) :
    (overwrite bytes (offset + shift) new).drop offset =
      overwrite (bytes.drop offset) shift new := by
  have front : offset ≤ (bytes.take (offset + shift)).length := by
    rw [List.length_take]
    omega
  rw [overwrite, overwrite, List.append_assoc, List.drop_append_of_le_length front, List.drop_take,
    List.drop_drop, List.append_assoc, Nat.add_sub_cancel_left, Nat.add_assoc]

theorem overwrite_add {bytes new : Bytes} {offset shift : Nat}
    (fits : offset + shift ≤ bytes.length) :
    overwrite bytes (offset + shift) new =
      bytes.take offset ++ overwrite (bytes.drop offset) shift new := by
  have front : (overwrite bytes (offset + shift) new).take offset = bytes.take offset :=
    take_overwrite (Nat.le_add_right offset shift) fits
  rw [← drop_overwrite_add fits, ← front, List.take_append_drop]

/-- A window that ends in front of a cut is overwritten in front of it. -/
theorem take_overwrite_comm {bytes new : Bytes} {offset count : Nat}
    (inside : offset + new.length ≤ count) (fits : offset + new.length ≤ bytes.length) :
    (overwrite bytes offset new).take count = overwrite (bytes.take count) offset new := by
  have front : (bytes.take offset ++ new).length = offset + new.length := by
    rw [List.length_append, List.length_take, Nat.min_eq_left (by omega)]
  rw [overwrite, overwrite, List.take_append, front, List.take_of_length_le (by omega),
    List.take_take, Nat.min_eq_left (by omega), List.drop_take]

/-- What is written into a window is found there. -/
theorem drop_overwrite_self {bytes new : Bytes} {offset : Nat} (fits : offset ≤ bytes.length) :
    (overwrite bytes offset new).drop offset = new ++ bytes.drop (offset + new.length) := by
  have front : (bytes.take offset).length = offset := by
    rw [List.length_take, Nat.min_eq_left fits]
  rw [overwrite, List.append_assoc, List.drop_append_of_le_length (by omega),
    List.drop_eq_nil_of_le (by omega), List.nil_append]

/-- Of two writes to one window the second counts. -/
theorem overwrite_overwrite {bytes first second : Bytes} {offset : Nat}
    (same : first.length = second.length) (fits : offset ≤ bytes.length) :
    overwrite (overwrite bytes offset first) offset second = overwrite bytes offset second := by
  rw [overwrite, take_overwrite (Nat.le_refl _) fits, drop_overwrite (by omega) fits]
  rfl

/-- Writing what is there already changes nothing. -/
theorem overwrite_slice {bytes : Bytes} {offset count : Nat}
    (fits : offset + count ≤ bytes.length) :
    overwrite bytes offset (slice bytes offset count) = bytes := by
  rw [overwrite, length_slice fits, slice, ← List.take_add, List.take_append_drop]

theorem slice_append_left {front back : Bytes} {offset count : Nat}
    (inside : offset + count ≤ front.length) :
    slice (front ++ back) offset count = slice front offset count := by
  rw [slice, slice, List.drop_append_of_le_length (by omega),
    List.take_append_of_le_length (by rw [List.length_drop]; omega)]

theorem slice_append_right {front back : Bytes} {offset count : Nat}
    (behind : front.length ≤ offset) :
    slice (front ++ back) offset count = slice back (offset - front.length) count := by
  rw [slice, slice, List.drop_append, List.drop_eq_nil_of_le behind, List.nil_append]

/-- Neighbouring windows join. -/
theorem slice_append_slice {bytes : Bytes} {offset next first second : Nat}
    (meet : offset + first = next) :
    slice bytes offset first ++ slice bytes next second = slice bytes offset (first + second) := by
  rw [← meet, slice, slice, slice, List.take_add, List.drop_drop]

/-- A window and what stands around it are the whole. -/
theorem take_append_slice_append_drop (bytes : Bytes) (offset count : Nat) :
    bytes.take offset ++ (slice bytes offset count ++ bytes.drop (offset + count)) = bytes := by
  rw [slice, ← List.drop_drop, List.take_append_drop, List.take_append_drop]

theorem slice_zero (bytes : Bytes) (count : Nat) : slice bytes 0 count = bytes.take count := rfl

/-- What is written into the front does not touch the back. -/
theorem overwrite_append_left {front back new : Bytes} {offset : Nat}
    (inside : offset + new.length ≤ front.length) :
    overwrite (front ++ back) offset new = overwrite front offset new ++ back := by
  rw [overwrite, overwrite, List.take_append_of_le_length (by omega),
    List.drop_append_of_le_length inside, List.append_assoc, List.append_assoc, List.append_assoc]

/-- What was written is there. -/
theorem slice_overwrite_self {bytes new : Bytes} {offset count : Nat}
    (fits : offset ≤ bytes.length) (width : new.length = count) :
    slice (overwrite bytes offset new) offset count = new := by
  rw [slice, drop_overwrite_self fits, List.take_left' width]

theorem slice_drop (bytes : Bytes) (start offset count : Nat) :
    slice (bytes.drop start) offset count = slice bytes (start + offset) count := by
  rw [slice, slice, List.drop_drop]

theorem le_length_drop {bytes : Bytes} {start count : Nat} (fits : start + count ≤ bytes.length) :
    count ≤ (bytes.drop start).length := by
  rw [List.length_drop]
  omega

/-- A window of a window. -/
theorem slice_slice {bytes : Bytes} {start total offset count : Nat}
    (inside : offset + count ≤ total) :
    slice (slice bytes start total) offset count = slice bytes (start + offset) count := by
  rw [← slice_drop, slice, slice, slice, List.drop_take, List.take_take,
    Nat.min_eq_left (by omega)]

theorem slice_take {bytes : Bytes} {offset count total : Nat} (inside : offset + count ≤ total) :
    slice (bytes.take total) offset count = slice bytes offset count := by
  rw [slice, slice, List.drop_take, List.take_take, Nat.min_eq_left (by omega)]

/-- A window into what was written. -/
theorem slice_overwrite_inside {bytes new : Bytes} {offset start count : Nat}
    (fits : offset ≤ bytes.length) (behind : offset ≤ start)
    (inside : start + count ≤ offset + new.length) :
    slice (overwrite bytes offset new) start count = slice new (start - offset) count := by
  have shift : offset + (start - offset) = start := Nat.add_sub_cancel' behind
  calc
    slice (overwrite bytes offset new) start count
        = slice ((overwrite bytes offset new).drop offset) (start - offset) count := by
      rw [slice_drop, shift]
    _ = slice new (start - offset) count := by
      rw [drop_overwrite_self fits, slice_append_left (by omega)]

/-- A write beside the window does not change it. -/
theorem slice_overwrite_of_disjoint {bytes new : Bytes} {offset start count : Nat}
    (fits : offset ≤ bytes.length)
    (beside : start + count ≤ offset ∨ offset + new.length ≤ start) :
    slice (overwrite bytes offset new) start count = slice bytes start count := by
  rcases beside with inFront | behind
  · rw [← slice_take (Nat.le_refl (start + count)), take_overwrite inFront fits,
      slice_take (Nat.le_refl _)]
  · rw [slice, drop_overwrite behind fits, slice]

/-! ## Numbers -/

/-- Two bytes hold every number below 2¹⁶. -/
theorem beNat_beBytes_two {n : Nat} (small : n < 0x10000) : beNat (beBytes 2 n) = n := by
  simp only [beBytes, beNat, List.nil_append, List.cons_append, List.foldl, UInt8.toNat_ofNat']
  omega

/-- Four bytes hold every number below 2³². -/
theorem beNat_beBytes_four {n : Nat} (small : n < 0x100000000) : beNat (beBytes 4 n) = n := by
  simp only [beBytes, beNat, List.nil_append, List.cons_append, List.foldl, UInt8.toNat_ofNat']
  omega

/-- Eight bytes hold every number below 2⁶⁴. -/
theorem beNat_beBytes_eight {n : Nat} (small : n < 0x10000000000000000) :
    beNat (beBytes 8 n) = n := by
  simp only [beBytes, beNat, List.nil_append, List.cons_append, List.foldl, UInt8.toNat_ofNat']
  omega

/-- A number that bytes denote is written as these bytes. -/
theorem beBytes_beNat {bytes : Bytes} {count : Nat} (length : bytes.length = count) :
    beBytes count (beNat bytes) = bytes := by
  induction count generalizing bytes with
  | zero =>
    rw [List.length_eq_zero_iff.1 length]
    rfl
  | succ count ih =>
    -- The last byte is the remainder, and the bytes in front of it are the quotient.
    rcases List.eq_nil_or_concat bytes with rfl | ⟨front, b, rfl⟩
    · cases length
    · have frontLength : front.length = count := by
        simpa using length
      have quotient : (beNat front * 256 + b.toNat) / 256 = beNat front := by
        have := b.toNat_lt
        omega
      have remainder : UInt8.ofNat (beNat front * 256 + b.toNat) = b := by
        apply UInt8.toNat_inj.1
        have := b.toNat_lt
        rw [UInt8.toNat_ofNat']
        omega
      rw [List.concat_eq_append, beNat_append_singleton, beBytes, quotient, remainder,
        ih frontLength]

/-- Two bytes are a number below 2¹⁶. -/
theorem beNat_lt_two {bytes : Bytes} (length : bytes.length = 2) : beNat bytes < 0x10000 := by
  match bytes, length with
  | [a, b], _ =>
    have := a.toNat_lt
    have := b.toNat_lt
    simp only [beNat, List.foldl]
    omega

/-- Four bytes are a number below 2³². -/
theorem beNat_lt_four {bytes : Bytes} (length : bytes.length = 4) : beNat bytes < 0x100000000 := by
  match bytes, length with
  | [a, b, c, d], _ =>
    have := a.toNat_lt
    have := b.toNat_lt
    have := c.toNat_lt
    have := d.toNat_lt
    simp only [beNat, List.foldl]
    omega

/-- Eight bytes are a number below 2⁶⁴. -/
theorem beNat_lt_eight {bytes : Bytes} (length : bytes.length = 8) :
    beNat bytes < 0x10000000000000000 := by
  match bytes, length with
  | [a, b, c, d, e, f, g, h], _ =>
    have := a.toNat_lt
    have := b.toNat_lt
    have := c.toNat_lt
    have := d.toNat_lt
    have := e.toNat_lt
    have := f.toNat_lt
    have := g.toNat_lt
    have := h.toNat_lt
    simp only [beNat, List.foldl]
    omega

/-! ## Words -/

section Words

variable {bytes : Bytes} {offset : Nat}

/-- The byte at an offset is the window of length one there. -/
theorem singleton_uint8At (fits : offset + 1 ≤ bytes.length) :
    [uint8At bytes offset] = slice bytes offset 1 := by
  match h : slice bytes offset 1, length_slice fits with
  | [b], _ => simp [uint8At, field, h, beNat]

theorem pair_uint8At {next : Nat} (meet : offset + 1 = next) (fits : next + 1 ≤ bytes.length) :
    [uint8At bytes offset, uint8At bytes next] = slice bytes offset 2 := by
  have first : [uint8At bytes offset] = slice bytes offset 1 := singleton_uint8At (by omega)
  have joined : slice bytes offset 1 ++ slice bytes next 1 = slice bytes offset 2 :=
    slice_append_slice meet
  rw [← joined, ← first, ← singleton_uint8At fits]
  rfl

theorem toNat_uint8At (fits : offset + 1 ≤ bytes.length) :
    (uint8At bytes offset).toNat = field bytes offset 1 := by
  rw [field, ← singleton_uint8At fits, beNat, List.foldl_cons, List.foldl_nil, Nat.zero_mul,
    Nat.zero_add]

theorem toNat_uint16At (fits : offset + 2 ≤ bytes.length) :
    (uint16At bytes offset).toNat = field bytes offset 2 :=
  UInt16.toNat_ofNat_of_lt' (beNat_lt_two (length_slice fits))

theorem toNat_uint32At (fits : offset + 4 ≤ bytes.length) :
    (uint32At bytes offset).toNat = field bytes offset 4 :=
  UInt32.toNat_ofNat_of_lt' (beNat_lt_four (length_slice fits))

theorem toNat_uint64At (fits : offset + 8 ≤ bytes.length) :
    (uint64At bytes offset).toNat = field bytes offset 8 :=
  UInt64.toNat_ofNat_of_lt' (beNat_lt_eight (length_slice fits))

theorem ofUInt16_uint16At (fits : offset + 2 ≤ bytes.length) :
    ofUInt16 (uint16At bytes offset) = slice bytes offset 2 := by
  rw [ofUInt16, toNat_uint16At fits, field, beBytes_beNat (length_slice fits)]

theorem ofUInt32_uint32At (fits : offset + 4 ≤ bytes.length) :
    ofUInt32 (uint32At bytes offset) = slice bytes offset 4 := by
  rw [ofUInt32, toNat_uint32At fits, field, beBytes_beNat (length_slice fits)]

theorem ofUInt64_uint64At (fits : offset + 8 ≤ bytes.length) :
    ofUInt64 (uint64At bytes offset) = slice bytes offset 8 := by
  rw [ofUInt64, toNat_uint64At fits, field, beBytes_beNat (length_slice fits)]

end Words

section Reading

variable {b : UInt8} {front rest : Bytes} {offset : Nat}

@[simp] theorem field_append {count : Nat} (behind : front.length ≤ offset) :
    field (front ++ rest) offset count = field rest (offset - front.length) count := by
  rw [field, field, slice_append_right behind]

@[simp] theorem field_cons {count : Nat} (behind : 0 < offset) :
    field (b :: rest) offset count = field rest (offset - 1) count :=
  @field_append [b] rest offset count behind

@[simp] theorem uint8At_append (behind : front.length ≤ offset) :
    uint8At (front ++ rest) offset = uint8At rest (offset - front.length) := by
  rw [uint8At, uint8At, field_append behind]

@[simp] theorem uint8At_cons (behind : 0 < offset) :
    uint8At (b :: rest) offset = uint8At rest (offset - 1) :=
  @uint8At_append [b] rest offset behind

@[simp] theorem uint16At_append (behind : front.length ≤ offset) :
    uint16At (front ++ rest) offset = uint16At rest (offset - front.length) := by
  rw [uint16At, uint16At, field_append behind]

@[simp] theorem uint16At_cons (behind : 0 < offset) :
    uint16At (b :: rest) offset = uint16At rest (offset - 1) :=
  @uint16At_append [b] rest offset behind

@[simp] theorem uint32At_append (behind : front.length ≤ offset) :
    uint32At (front ++ rest) offset = uint32At rest (offset - front.length) := by
  rw [uint32At, uint32At, field_append behind]

@[simp] theorem uint32At_cons (behind : 0 < offset) :
    uint32At (b :: rest) offset = uint32At rest (offset - 1) :=
  @uint32At_append [b] rest offset behind

@[simp] theorem uint64At_append (behind : front.length ≤ offset) :
    uint64At (front ++ rest) offset = uint64At rest (offset - front.length) := by
  rw [uint64At, uint64At, field_append behind]

@[simp] theorem uint64At_cons (behind : 0 < offset) :
    uint64At (b :: rest) offset = uint64At rest (offset - 1) :=
  @uint64At_append [b] rest offset behind

@[simp] theorem uint8At_cons_zero : uint8At (b :: rest) 0 = b := by
  simp [uint8At, field, slice, beNat]

@[simp] theorem uint16At_ofUInt16 (w : UInt16) : uint16At (ofUInt16 w ++ rest) 0 = w := by
  have small := w.toNat_lt
  rw [uint16At, field, slice_append_left (by simp), slice_zero,
    List.take_of_length_le (by simp), ofUInt16, beNat_beBytes_two small]
  simp

@[simp] theorem uint32At_ofUInt32 (w : UInt32) : uint32At (ofUInt32 w ++ rest) 0 = w := by
  have small := w.toNat_lt
  rw [uint32At, field, slice_append_left (by simp), slice_zero,
    List.take_of_length_le (by simp), ofUInt32, beNat_beBytes_four small]
  simp

@[simp] theorem uint64At_ofUInt64 (w : UInt64) : uint64At (ofUInt64 w ++ rest) 0 = w := by
  have small := w.toNat_lt
  rw [uint64At, field, slice_append_left (by simp), slice_zero,
    List.take_of_length_le (by simp), ofUInt64, beNat_beBytes_eight small]
  simp

end Reading

end Bytes

end FrameText
