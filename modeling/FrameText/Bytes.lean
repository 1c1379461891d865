import FrameText.Text.Numeral

/-!
# Bytes

Network byte order and windows of a list of bytes.

1. `beBytes` writes a number in a fixed count of bytes, `beNat` reads bytes as a number.
2. `slice` looks at a window, `overwrite` replaces it.
3. `hexDigits` shows bytes as pairs of hexadecimal digits.
-/

namespace FrameText

namespace Bytes

/-! ## Network byte order -/

/-- The lowest `count` bytes of a number, most significant first. -/
def beBytes : Nat → Nat → Bytes
  | 0, _ => []
  | count + 1, n => beBytes count (n / 256) ++ [UInt8.ofNat n]

/-- The number that the bytes denote, most significant first. -/
def beNat (bytes : Bytes) : Nat :=
  bytes.foldl (fun n b => n * 256 + b.toNat) 0

@[simp] theorem length_beBytes (count n : Nat) : (beBytes count n).length = count := by
  induction count generalizing n with
  | zero => rfl
  | succ count ih => simp [beBytes, ih]

theorem beNat_append_singleton (bytes : Bytes) (b : UInt8) :
    beNat (bytes ++ [b]) = beNat bytes * 256 + b.toNat := by
  simp [beNat]

/-! ## Windows -/

/-- The `length` bytes that start at `offset`. -/
def slice (bytes : Bytes) (offset length : Nat) : Bytes :=
  (bytes.drop offset).take length

/-- The bytes with those from `offset` on replaced by `new`. -/
def overwrite (bytes : Bytes) (offset : Nat) (new : Bytes) : Bytes :=
  bytes.take offset ++ new ++ bytes.drop (offset + new.length)

theorem length_slice {bytes : Bytes} {offset length : Nat}
    (fits : offset + length ≤ bytes.length) : (slice bytes offset length).length = length := by
  simp [slice]
  omega

theorem length_overwrite {bytes new : Bytes} {offset : Nat}
    (fits : offset + new.length ≤ bytes.length) :
    (overwrite bytes offset new).length = bytes.length := by
  simp [overwrite]
  omega

/-- The number in the `length` bytes that start at `offset`. -/
def field (bytes : Bytes) (offset length : Nat) : Nat :=
  beNat (slice bytes offset length)

/-! ## Hexadecimal form -/

/-- The two digits of each byte in small letters, without separators. -/
def hexDigits (bytes : Bytes) : Text :=
  bytes.flatMap fun b => Text.hex 2 b.toNat

end Bytes

end FrameText
