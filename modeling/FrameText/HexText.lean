import FrameText.Bytes
import FrameText.Error

/-!
# Hex text

* `HexText.parse` reads pairs of hexadecimal digits; blanks may stand anywhere.
* `HexText.dump` shows data in lines of sixteen bytes, each behind its offset.
-/

namespace FrameText

namespace HexText

/-! ## Reading -/

/-- The value of a hexadecimal digit given as a byte of text. -/
def digit? (b : UInt8) : Option Nat :=
  Text.digit? 16 (Char.ofNat b.toNat)

/-- Reads pairs of digits, the first of which stands at `position`. -/
def readPairs : Nat → Bytes → Except HexFault Bytes
  | _, [] => .ok []
  | _, [_] => .error .oddLength
  | position, high :: low :: rest =>
    match digit? high, digit? low with
    | none, _ => .error (.badDigit high position)
    | some _, none => .error (.badDigit low (position + 1))
    | some h, some l => (readPairs (position + 2) rest).map (UInt8.ofNat (h * 16 + l) :: ·)

/-- Reads pairs of digits; an odd number of bytes is refused before any digit is looked at. -/
def parse (text : Text) : Except Error Bytes :=
  let digits := Text.utf8 (text.filter (!Text.isBlank ·))
  (if digits.length % 2 = 1 then .error .oddLength else readPairs 0 digits).mapError .invalidHex

/-! ## Writing -/

/-- Bytes on a line of a dump. -/
def lineLength : Nat := 16

/-- Bytes as pairs of capital digits with spaces between them. -/
def spacedPairs (bytes : Bytes) : Text :=
  Text.join [' '] (bytes.map fun b => Text.hexUpper 2 b.toNat)

/-- One line of a dump. -/
def dumpLine (offset : Nat) (bytes : Bytes) : Text :=
  Text.hex 4 offset ++ ": ".toList ++ spacedPairs bytes

/-- The lines of a dump of data whose first byte is shown at `offset`. -/
def dumpLines (offset : Nat) (data : Bytes) : List Text :=
  if data = [] then
    []
  else
    dumpLine offset (data.take lineLength) ::
      dumpLines (offset + lineLength) (data.drop lineLength)
termination_by data.length
decreasing_by
  have := List.length_pos_iff.2 ‹data ≠ []›
  simp only [List.length_drop, lineLength]
  omega

/-- A dump of data. -/
def dump (data : Bytes) : Text :=
  Text.join ['\n'] (dumpLines 0 data)

end HexText

end FrameText
