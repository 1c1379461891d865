import FrameText.Header.Basic

/-!
# Timestamp marker

Twelve bytes: the characters `tsc=` and a 64-bit counter.  A transmitter finds the marker by its
recorded offset and patches the counter.
-/

namespace FrameText

/-- Timestamp marker. -/
structure Timestamp where
  value : UInt64 := 0
  deriving DecidableEq, Repr

/-- The bytes that open a marker: `tsc=` in ASCII. -/
def Timestamp.mark : Bytes := [0x74, 0x73, 0x63, 0x3D]

instance : Header Timestamp where
  kind := .tsc
  size := 12
  put header := Timestamp.mark ++ Bytes.ofUInt64 header.value
  get data := { value := Bytes.uint64At data 4 }
  length_put _ := by simp [Timestamp.mark]

/-- Whether data starts with a complete marker. -/
def Timestamp.startsAt (data : Bytes) : Bool :=
  decide (Header.size Timestamp ≤ data.length) && Timestamp.mark.isPrefixOf data

end FrameText
