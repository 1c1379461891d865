import FrameText.Checksum
import FrameText.Header.Basic
import FrameText.IpProtocol

/-!
# IPv4 header

The twenty fixed bytes; options are neither written nor kept.
-/

namespace FrameText

/-- IPv4 header without options. -/
structure IPv4Header where
  /-- Version in the high four bits, header length in 32-bit words in the low four. -/
  versionIhl : UInt8 := 0x45
  tos : UInt8 := 0
  totalLength : UInt16 := 20
  identification : UInt16 := 1
  /-- Three flags and thirteen bits of fragment offset. -/
  fragmentOffset : UInt16 := 0
  ttl : UInt8 := 64
  protocol : IpProtocol := .custom 0
  checksum : UInt16 := 0
  source : IPv4Address := ⟨192, 10, 0, 1⟩
  destination : IPv4Address := ⟨192, 10, 0, 2⟩
  deriving DecidableEq, Repr

instance : Header IPv4Header where
  kind := .ipv4
  size := 20
  put header :=
    [header.versionIhl, header.tos] ++ Bytes.ofUInt16 header.totalLength ++
      Bytes.ofUInt16 header.identification ++ Bytes.ofUInt16 header.fragmentOffset ++
      [header.ttl, header.protocol.toUInt8] ++ Bytes.ofUInt16 header.checksum ++
      header.source.octets ++ header.destination.octets
  get data := {
    versionIhl := Bytes.uint8At data 0
    tos := Bytes.uint8At data 1
    totalLength := Bytes.uint16At data 2
    identification := Bytes.uint16At data 4
    fragmentOffset := Bytes.uint16At data 6
    ttl := Bytes.uint8At data 8
    protocol := .ofUInt8 (Bytes.uint8At data 9)
    checksum := Bytes.uint16At data 10
    source := .readAt data 12
    destination := .readAt data 16 }
  length_put _ := by simp [IPv4Address.octets]

namespace IPv4Header

/-- The version field. -/
def version (header : IPv4Header) : Nat :=
  header.versionIhl.toNat / 16

/-- The header length field, in 32-bit words. -/
def words (header : IPv4Header) : Nat :=
  header.versionIhl.toNat % 16

/-- The length that the header claims, options included. -/
def headerLength (header : IPv4Header) : Nat :=
  header.words * 4

/-- The length of the options that the header claims. -/
def optionsLength (header : IPv4Header) : Nat :=
  header.headerLength - Header.size IPv4Header

/-- The checksum of the header with its checksum field cleared. -/
def computeChecksum (header : IPv4Header) : UInt16 :=
  Checksum.ofBytes (Header.put { header with checksum := 0 })

/-- The header with its checksum filled in. -/
def withChecksum (header : IPv4Header) : IPv4Header :=
  { header with checksum := header.computeChecksum }

end IPv4Header

end FrameText
