import FrameText.Header.Basic

/-!
# VXLAN header

Flags, the type of what follows, and 24 bits of network identifier; the other bytes are zero.
-/

namespace FrameText

/-- VXLAN header; the network identifier uses 24 bits. -/
structure VxlanHeader where
  flags : UInt8 := 0x08
  nextProtocol : UInt8 := 0
  vni : UInt32 := 1000
  deriving DecidableEq, Repr

namespace VxlanHeader

/-- The flag that marks the network identifier as valid. -/
def validFlag : UInt8 := 0x08

/-- The type of an Ethernet frame that follows. -/
def nextEthernet : UInt8 := 3

/-- The header of a network, whose identifier is cut to its width. -/
def ofVni (vni : UInt32) : VxlanHeader where
  vni := UInt32.ofNat (vni.toNat % 0x1000000)

end VxlanHeader

instance : Header VxlanHeader where
  kind := .vxlan
  size := 8
  put header :=
    [header.flags, 0, 0, header.nextProtocol] ++
      Bytes.ofUInt32 (UInt32.ofNat (header.vni.toNat % 0x1000000 * 256))
  get data := {
    flags := Bytes.uint8At data 0
    nextProtocol := Bytes.uint8At data 3
    vni := UInt32.ofNat ((Bytes.uint32At data 4).toNat / 256) }
  length_put _ := by simp

end FrameText
