import FrameText.Text.Numeral

/-!
# EtherTypes

The number by which an Ethernet header or a VLAN tag says what follows it.
-/

namespace FrameText

/-- What follows an Ethernet header or a VLAN tag. -/
inductive EtherType where
  | ipv4
  | dot1q
  | dot1ad
  | ipv6
  /-- Any other number. -/
  | custom (value : UInt16)
  deriving DecidableEq, Repr

namespace EtherType

/-- Number written when nothing that is known follows an Ethernet header. -/
def placeholder : UInt16 := 0x9000

/-- The number of a type. -/
def toUInt16 : EtherType → UInt16
  | ipv4 => 0x0800
  | dot1q => 0x8100
  | dot1ad => 0x88A8
  | ipv6 => 0x86DD
  | custom value => value

/-- The type with a number. -/
def ofUInt16 (value : UInt16) : EtherType :=
  if value = 0x0800 then ipv4
  else if value = 0x8100 then dot1q
  else if value = 0x88A8 then dot1ad
  else if value = 0x86DD then ipv6
  else custom value

@[simp] theorem toUInt16_ofUInt16 (value : UInt16) : (ofUInt16 value).toUInt16 = value := by
  unfold ofUInt16
  repeat' split
  all_goals simp_all [toUInt16]

/-- The printed form. -/
def print (type : EtherType) : Text :=
  "0x".toList ++ Text.hexUpper 4 type.toUInt16.toNat

/-- The name of a type in diagnostics. -/
def describe : EtherType → Text
  | ipv4 => "IPv4".toList
  | dot1q => "VLAN".toList
  | dot1ad => "QinQ".toList
  | ipv6 => "IPv6".toList
  | custom value => "Custom(".toList ++ Text.decimal value.toNat ++ ")".toList

end EtherType

end FrameText
