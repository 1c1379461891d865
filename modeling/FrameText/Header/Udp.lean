import FrameText.Header.Basic

/-!
# UDP header

The checksum covers the whole datagram and is filled in once the datagram is complete.
-/

namespace FrameText

/-- UDP header. -/
structure UdpHeader where
  sourcePort : UInt16 := 1234
  destinationPort : UInt16 := 5678
  /-- Length of header and data. -/
  length : UInt16 := 8
  checksum : UInt16 := 0
  deriving DecidableEq, Repr

instance : Header UdpHeader where
  kind := .udp
  size := 8
  put header :=
    Bytes.ofUInt16 header.sourcePort ++ Bytes.ofUInt16 header.destinationPort ++
      Bytes.ofUInt16 header.length ++ Bytes.ofUInt16 header.checksum
  get data := {
    sourcePort := Bytes.uint16At data 0
    destinationPort := Bytes.uint16At data 2
    length := Bytes.uint16At data 4
    checksum := Bytes.uint16At data 6 }
  length_put _ := by simp

namespace UdpHeader

/-- Where the checksum stands in the header. -/
def checksumOffset : Nat := 6

/-- A checksum of zero goes on the wire as its twin, since zero there means none. -/
def wireChecksum (computed : UInt16) : UInt16 :=
  if computed = 0 then 0xFFFF else computed

end UdpHeader

end FrameText
