import FrameText.Header.Ethernet
import FrameText.Header.IPv4
import FrameText.Header.IPv6
import FrameText.Header.Tcp
import FrameText.Header.Timestamp
import FrameText.Header.Udp
import FrameText.Header.Vlan
import FrameText.Header.Vxlan
import FrameText.Layer.Key
import FrameText.RawText

/-!
# Layers

A layer of a frame description whose parameters have been read.

1. `Layer` is the result: a header with the given values and the defaults for the others.
2. The `assign` functions set one parameter.  Parameters that follow from the rest of the frame
   (lengths, checksums, …) are accepted without effect, so that the description of a dissected
   frame can be encoded again.
3. `Layer.ofToken` reads all parameters of a layer, in the order in which they are given.
-/

namespace FrameText

/-- How long a payload makes the frame. -/
inductive PayloadSize where
  /-- As long as it is. -/
  | unchanged
  /-- This long on the wire, within the limits of Ethernet. -/
  | wire (length : Nat)
  /-- Longer by this much. -/
  | append (length : Nat)
  deriving DecidableEq, Repr

/-- The frame length that a payload asks for behind `offset` bytes. -/
def PayloadSize.target (size : PayloadSize) (offset : Nat) : Nat :=
  match size with
  | unchanged => offset
  | wire length => max Limits.minWireLength (min length Limits.maxWireLength) - Limits.checkLength
  | append length => min (offset + length) (Limits.wordBound - 1)

/-- A layer whose parameters have been read. -/
inductive Layer where
  | ether (header : EthernetHeader)
  | vlan (tag : VlanTag) (header : VlanHeader)
  /-- The protocol is the one to write when no transport layer follows. -/
  | ipv4 (header : IPv4Header) (protocol : Option IpProtocol)
  /-- The protocol is the one to write when no transport layer follows. -/
  | ipv6 (header : IPv6Header) (protocol : Option IpProtocol)
  /-- Ports that are not given depend on the layer that follows. -/
  | udp (sourcePort destinationPort : Option UInt16)
  | tcp (header : TcpHeader)
  | vxlan (header : VxlanHeader)
  | echo
  | tsc (header : Timestamp)
  | raw (bytes : Bytes)
  | payload (size : PayloadSize) (fill : UInt8)
  deriving DecidableEq, Repr

namespace Layer

/-- The kind of a layer. -/
def kind : Layer → LayerKind
  | ether _ => .ether
  | vlan tag _ => tag.kind
  | ipv4 _ _ => .ipv4
  | ipv6 _ _ => .ipv6
  | udp _ _ => .udp
  | tcp _ => .tcp
  | vxlan _ => .vxlan
  | echo => .echo
  | tsc _ => .tsc
  | raw _ => .raw
  | payload _ _ => .payload

/-! ## One parameter -/

/-- Sets a parameter of an Ethernet header. -/
def assignEther (header : EthernetHeader) (key value : Text) : Except Error EthernetHeader := do
  match Key.ofText? key with
  | some .dst => return { header with destination := ← MacAddress.parse value }
  | some .src => return { header with source := ← MacAddress.parse value }
  | _ => throw (.invalidKey .ether key)

/-- Sets a parameter of a VLAN tag. -/
def assignVlan (tag : VlanTag) (header : VlanHeader) (key value : Text) :
    Except Error VlanHeader := do
  match Key.ofText? key with
  | some .vlan =>
    return .ofFields (← uint16 key value) header.priority header.dropEligible
  | some .prio =>
    return .ofFields header.vlanId (← uint8 key value) header.dropEligible
  | some .cfi =>
    return .ofFields header.vlanId header.priority ((← uint8 key value).toNat % 2 == 1)
  | _ => throw (.invalidKey tag.kind key)

/-- Sets a parameter of an IPv4 header. -/
def assignIPv4 (layer : IPv4Header × Option IpProtocol) (key value : Text) :
    Except Error (IPv4Header × Option IpProtocol) := do
  let (header, protocol) := layer
  match Key.ofText? key with
  | some .dst =>
    return ({ header with destination := ← address IPv4Address.ofText? key value }, protocol)
  | some .src =>
    return ({ header with source := ← address IPv4Address.ofText? key value }, protocol)
  | some .tos => return ({ header with tos := ← uint8 key value }, protocol)
  | some .ttl => return ({ header with ttl := ← uint8 key value }, protocol)
  | some .id => return ({ header with identification := ← uint16 key value }, protocol)
  | some .proto => return (header, some (← IpProtocol.parse value))
  | some .ver | some .ihl | some .len | some .fragoff | some .cksum => return layer
  | _ => throw (.invalidKey .ipv4 key)

/-- Sets a parameter of an IPv6 header. -/
def assignIPv6 (layer : IPv6Header × Option IpProtocol) (key value : Text) :
    Except Error (IPv6Header × Option IpProtocol) := do
  let (header, protocol) := layer
  match Key.ofText? key with
  | some .dst =>
    return ({ header with destination := ← address IPv6Address.ofText? key value }, protocol)
  | some .src =>
    return ({ header with source := ← address IPv6Address.ofText? key value }, protocol)
  | some .hops => return ({ header with hopLimit := ← uint8 key value }, protocol)
  | some .proto => return (header, some (← IpProtocol.parse value))
  | some .vtc | some .len => return layer
  | _ => throw (.invalidKey .ipv6 key)

/-- Sets a port of a UDP header. -/
def assignUdp (ports : Option UInt16 × Option UInt16) (key value : Text) :
    Except Error (Option UInt16 × Option UInt16) := do
  match Key.ofText? key with
  | some .sport => return (some (← uint16 key value), ports.2)
  | some .dport => return (ports.1, some (← uint16 key value))
  | some .len | some .cksum => return ports
  | _ => throw (.invalidKey .udp key)

/-- Sets a parameter of a TCP header. -/
def assignTcp (header : TcpHeader) (key value : Text) : Except Error TcpHeader := do
  match Key.ofText? key with
  | some .dport => return { header with destinationPort := ← uint16 key value }
  | some .sport => return { header with sourcePort := ← uint16 key value }
  | some .seq => return { header with sequence := ← uint32 key value }
  | some .ack => return { header with acknowledgment := ← uint32 key value }
  | some .flags => return { header with flags := ⟨← uint8 key value⟩ }
  | some .win => return { header with window := ← uint16 key value }
  | some .dataOff | some .cksum | some .urp => return header
  | _ => throw (.invalidKey .tcp key)

/-- Sets a parameter of a VXLAN header. -/
def assignVxlan (header : VxlanHeader) (key value : Text) : Except Error VxlanHeader := do
  match Key.ofText? key with
  | some .vni => return .ofVni (← uint32 key value)
  | some .flags => return header
  | _ => throw (.invalidKey .vxlan key)

/-- The echo service has no parameters. -/
def assignEcho (_ : Unit) (key _value : Text) : Except Error Unit :=
  throw (.invalidKey .echo key)

/-- Sets the counter of a timestamp marker. -/
def assignTsc (_ : Timestamp) (key value : Text) : Except Error Timestamp := do
  match Key.ofText? key with
  | some .val => return { value := ← uint64 key value }
  | _ => throw (.invalidKey .tsc key)

/-- Sets the size or the fill byte of a payload, which has at most one size. -/
def assignPayload (layer : PayloadSize × UInt8) (key value : Text) :
    Except Error (PayloadSize × UInt8) := do
  let (size, fill) := layer
  match Key.ofText? key with
  | some .size | some .len =>
    if size = .unchanged then
      return (.wire (← number Limits.wordBound key value), fill)
    else
      throw (.parse .payloadSizedTwice)
  | some .append =>
    if size = .unchanged then
      return (.append (← number Limits.wordBound key value), fill)
    else
      throw (.parse .payloadSizedTwice)
  | some .fill => return (size, ← uint8 key value)
  | _ => throw (.invalidKey .payload key)

/-! ## All parameters -/

/-- Sets the parameters of a layer one after the other, starting from the defaults. -/
def assignAll {σ : Type} (assign : σ → Text → Text → Except Error σ) (defaults : σ)
    (params : Text) : Except Error σ := do
  (← assignments params).foldlM (fun layer pair => assign layer pair.1 pair.2) defaults

/-- Reads the parameters of a layer. -/
def ofToken (token : LayerToken) : Except Error Layer :=
  match token.kind with
  | .ether => ether <$> assignAll assignEther {} token.params
  | .dot1q => vlan .customer <$> assignAll (assignVlan .customer) (.ofFields 1 7 false) token.params
  | .dot1ad => vlan .service <$> assignAll (assignVlan .service) (.ofFields 1 7 false) token.params
  | .ipv4 => (fun layer => ipv4 layer.1 layer.2) <$> assignAll assignIPv4 ({}, none) token.params
  | .ipv6 => (fun layer => ipv6 layer.1 layer.2) <$> assignAll assignIPv6 ({}, none) token.params
  | .udp => (fun ports => udp ports.1 ports.2) <$> assignAll assignUdp (none, none) token.params
  | .tcp => tcp <$> assignAll assignTcp {} token.params
  | .vxlan => vxlan <$> assignAll assignVxlan {} token.params
  | .echo => (fun _ => echo) <$> assignAll assignEcho () token.params
  | .tsc => tsc <$> assignAll assignTsc {} token.params
  | .raw => raw <$> RawText.parse token.params
  | .payload =>
    (fun layer => payload layer.1 layer.2) <$>
      assignAll assignPayload (.unchanged, Limits.fillByte) token.params

end Layer

end FrameText
