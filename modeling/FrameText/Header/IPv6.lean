import FrameText.Address.IPv6
import FrameText.Header.Basic
import FrameText.IpProtocol

/-!
# IPv6 header

The forty fixed bytes; there are no extension headers.
-/

namespace FrameText

/-- IPv6 header. -/
structure IPv6Header where
  /-- Version (4 bits), traffic class (8 bits) and flow label (20 bits). -/
  vtcFlow : UInt32 := 0x60000000
  /-- Length of everything behind the header. -/
  payloadLength : UInt16 := 0
  nextHeader : IpProtocol := .custom IpProtocol.noNextHeader
  hopLimit : UInt8 := 64
  source : IPv6Address := ⟨0x2001, 0xdb8, 0, 0, 0, 0, 0, 1⟩
  destination : IPv6Address := ⟨0x2001, 0xdb8, 0, 0, 0, 0, 0, 2⟩
  deriving DecidableEq, Repr

theorem IPv6Address.length_octets (ip : IPv6Address) : ip.octets.length = 16 := by
  simp [IPv6Address.octets, IPv6Address.groups]

instance : Header IPv6Header where
  kind := .ipv6
  size := 40
  put header :=
    Bytes.ofUInt32 header.vtcFlow ++ Bytes.ofUInt16 header.payloadLength ++
      [header.nextHeader.toUInt8, header.hopLimit] ++ header.source.octets ++
      header.destination.octets
  get data := {
    vtcFlow := Bytes.uint32At data 0
    payloadLength := Bytes.uint16At data 4
    nextHeader := .ofUInt8 (Bytes.uint8At data 6)
    hopLimit := Bytes.uint8At data 7
    source := .readAt data 8
    destination := .readAt data 24 }
  length_put _ := by simp [IPv6Address.length_octets]

/-- The version field. -/
def IPv6Header.version (header : IPv6Header) : Nat :=
  header.vtcFlow.toNat / 0x10000000

end FrameText
