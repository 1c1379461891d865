import FrameText.EtherType
import FrameText.Header.Basic

/-!
# VLAN tag

The four bytes behind the EtherType of an 802.1Q or 802.1ad tag: three bits of priority, one bit
that marks frames to be dropped first, twelve bits of VLAN identifier, and the type of what follows.
-/

namespace FrameText

/-- The two kinds of VLAN tag. -/
inductive VlanTag where
  /-- 802.1Q. -/
  | customer
  /-- 802.1ad. -/
  | service
  deriving DecidableEq, Repr

/-- The layer kind of a tag. -/
def VlanTag.kind : VlanTag → LayerKind
  | customer => .dot1q
  | service => .dot1ad

/-- VLAN tag; the identifier uses 12 bits and the priority 3. -/
structure VlanHeader where
  vlanId : UInt16
  priority : UInt8
  dropEligible : Bool
  etherType : EtherType := .custom 0
  deriving DecidableEq, Repr

namespace VlanHeader

/-- A tag whose fields are cut to their widths. -/
def ofFields (vlanId : UInt16) (priority : UInt8) (dropEligible : Bool) : VlanHeader where
  vlanId := UInt16.ofNat (vlanId.toNat % 4096)
  priority := UInt8.ofNat (priority.toNat % 8)
  dropEligible := dropEligible

/-- The tag control information: the three fields in one word. -/
def control (header : VlanHeader) : UInt16 :=
  UInt16.ofNat
    (header.priority.toNat % 8 * 8192 + header.dropEligible.toNat * 4096 +
      header.vlanId.toNat % 4096)

/-- The tag with this tag control information. -/
def ofControl (control : UInt16) (etherType : EtherType) : VlanHeader where
  vlanId := UInt16.ofNat (control.toNat % 4096)
  priority := UInt8.ofNat (control.toNat / 8192)
  dropEligible := control.toNat / 4096 % 2 == 1
  etherType := etherType

end VlanHeader

instance : Header VlanHeader where
  kind := .dot1q
  size := 4
  put header := Bytes.ofUInt16 header.control ++ Bytes.ofUInt16 header.etherType.toUInt16
  get data := .ofControl (Bytes.uint16At data 0) (.ofUInt16 (Bytes.uint16At data 2))
  length_put _ := by simp

end FrameText
