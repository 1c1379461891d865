import FrameText.Header.Basic

/-!
# TCP header

The twenty fixed bytes; options are neither written nor kept.
-/

namespace FrameText

/-- TCP control bits. -/
structure TcpFlags where
  bits : UInt8
  deriving DecidableEq, Repr

namespace TcpFlags

/-- Opens a connection. -/
def syn : TcpFlags := ⟨0x02⟩

/-- The bits that are in either. -/
def union (a b : TcpFlags) : TcpFlags := ⟨a.bits ||| b.bits⟩

/-- Whether all bits of `b` are in `a`. -/
def contains (a b : TcpFlags) : Bool := a.bits &&& b.bits == b.bits

end TcpFlags

/-- TCP header without options. -/
structure TcpHeader where
  sourcePort : UInt16 := 0x1234
  destinationPort : UInt16 := 0x1111
  sequence : UInt32 := 0
  acknowledgment : UInt32 := 0
  /-- Header length in 32-bit words; four bits on the wire. -/
  dataOffset : UInt8 := 5
  flags : TcpFlags := .syn
  window : UInt16 := 8192
  checksum : UInt16 := 0
  urgentPointer : UInt16 := 0
  deriving DecidableEq, Repr

instance : Header TcpHeader where
  kind := .tcp
  size := 20
  put header :=
    Bytes.ofUInt16 header.sourcePort ++ Bytes.ofUInt16 header.destinationPort ++
      Bytes.ofUInt32 header.sequence ++ Bytes.ofUInt32 header.acknowledgment ++
      [UInt8.ofNat (header.dataOffset.toNat % 16 * 16), header.flags.bits] ++
      Bytes.ofUInt16 header.window ++ Bytes.ofUInt16 header.checksum ++
      Bytes.ofUInt16 header.urgentPointer
  get data := {
    sourcePort := Bytes.uint16At data 0
    destinationPort := Bytes.uint16At data 2
    sequence := Bytes.uint32At data 4
    acknowledgment := Bytes.uint32At data 8
    dataOffset := UInt8.ofNat ((Bytes.uint8At data 12).toNat / 16)
    flags := ⟨Bytes.uint8At data 13⟩
    window := Bytes.uint16At data 14
    checksum := Bytes.uint16At data 16
    urgentPointer := Bytes.uint16At data 18 }
  length_put _ := by simp

namespace TcpHeader

/-- Where the checksum stands in the header. -/
def checksumOffset : Nat := 16

/-- The length of the options that the header claims. -/
def optionsLength (header : TcpHeader) : Nat :=
  header.dataOffset.toNat * 4 - Header.size TcpHeader

end TcpHeader

end FrameText
