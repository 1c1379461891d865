import FrameText.Text.Blank

/-!
# Layer kinds

The twelve kinds of layer that a frame description is made of, and their names.
-/

namespace FrameText

/-- The kinds of layer that a frame description is made of. -/
inductive LayerKind where
  /-- Ethernet II header. -/
  | ether
  /-- 802.1Q VLAN tag. -/
  | dot1q
  /-- 802.1ad service tag. -/
  | dot1ad
  /-- IPv4 header. -/
  | ipv4
  /-- IPv6 header. -/
  | ipv6
  /-- UDP header. -/
  | udp
  /-- TCP header. -/
  | tcp
  /-- VXLAN header. -/
  | vxlan
  /-- Echo service; has no bytes of its own. -/
  | echo
  /-- Timestamp marker. -/
  | tsc
  /-- Literal bytes. -/
  | raw
  /-- Fills the frame up to a length. -/
  | payload
  deriving DecidableEq, Repr

namespace LayerKind

/-- Every kind once. -/
def all : List LayerKind :=
  [ether, dot1q, dot1ad, ipv4, ipv6, udp, tcp, vxlan, echo, tsc, raw, payload]

theorem mem_all (kind : LayerKind) : kind ∈ all := by
  cases kind <;> decide

/-- The name of a kind in frame descriptions. -/
def name : LayerKind → Text
  | ether => "Ether".toList
  | dot1q => "Dot1q".toList
  | dot1ad => "Dot1ad".toList
  | ipv4 => "IPv4".toList
  | ipv6 => "IPv6".toList
  | udp => "UDP".toList
  | tcp => "TCP".toList
  | vxlan => "Vxlan".toList
  | echo => "Echo".toList
  | tsc => "TSC".toList
  | raw => "Raw".toList
  | payload => "Payload".toList

/-- The kind with this name, whatever the case of its letters. -/
def ofName? (s : Text) : Option LayerKind :=
  all.find? fun kind => Text.sameIgnoringCase kind.name s

theorem ofName?_name (kind : LayerKind) : ofName? kind.name = some kind := by
  cases kind <;> decide

end LayerKind

end FrameText
