import FrameText.Text.Blank

/-!
# Numerals

Unsigned numbers in decimal and hexadecimal.

* Reading: `unsigned?` accepts one leading plus sign and at least one digit, however many leading
  zeros there are; `number?` adds the mark `0x` for hexadecimal digits.
* Writing: `decimal`, and `hex` in small letters, padded with zeros to a given width.
-/

namespace FrameText

namespace Text

/-! ## Reading -/

/-- The value of a digit below `base`, which is at most sixteen. -/
def digit? (base : Nat) (c : Char) : Option Nat :=
  let n := c.toNat
  let value :=
    if 0x30 ≤ n ∧ n ≤ 0x39 then n - 0x30
    else if 0x41 ≤ n ∧ n ≤ 0x46 then n - 0x41 + 10
    else if 0x61 ≤ n ∧ n ≤ 0x66 then n - 0x61 + 10
    else base
  if value < base then some value else none

/-- Reads digits behind a numeral whose value so far is `value`. -/
def readDigits (base : Nat) : Nat → Text → Option Nat
  | value, [] => some value
  | value, c :: cs =>
    match digit? base c with
    | some d => readDigits base (value * base + d) cs
    | none => none

/-- The value of a non-empty row of digits. -/
def digits? (base : Nat) : Text → Option Nat
  | [] => none
  | s => readDigits base 0 s

/-- The value of digits that may stand behind one plus sign. -/
def unsigned? (base : Nat) : Text → Option Nat
  | '+' :: s => digits? base s
  | s => digits? base s

/-- The value of an unsigned numeral below `bound`. -/
def unsignedBelow? (base bound : Nat) (s : Text) : Option Nat :=
  (unsigned? base s).filter (· < bound)

/-- The hexadecimal digits behind the mark `0x` or `0X`. -/
def hexMarked? : Text → Option Text
  | '0' :: 'x' :: s => some s
  | '0' :: 'X' :: s => some s
  | _ => none

/-- The value of a numeral below `bound`: hexadecimal behind `0x`, decimal otherwise. -/
def number? (bound : Nat) (s : Text) : Option Nat :=
  match hexMarked? s with
  | some digits => unsignedBelow? 16 bound digits
  | none => unsignedBelow? 10 bound s

/-! ## Writing -/

/-- The decimal form, without leading zeros. -/
def decimal (n : Nat) : Text :=
  Nat.toDigits 10 n

/-- The hexadecimal form in small letters, with zeros in front up to `width` digits. -/
def hex (width n : Nat) : Text :=
  (Nat.toDigits 16 n).leftpad width '0'

/-- The hexadecimal form in capitals, with zeros in front up to `width` digits. -/
def hexUpper (width n : Nat) : Text :=
  (hex width n).map Char.toUpper

/-- The hexadecimal form behind the mark `0x`. -/
def hexMarked (width n : Nat) : Text :=
  '0' :: 'x' :: hex width n

end Text

end FrameText
