import FrameText.Frame
import FrameText.Layer.Basic

/-!
# Layers in a frame

A layer meets the frame twice.

1. On the way down, `Layer.place` makes room for the layer behind the bytes in use, records its
   header, and writes what is known already.
2. On the way back, `Layer.settle` writes what depends on the layers behind: types, lengths and
   checksums, and the fill of a payload whose frame grew.

Every access to the buffer is checked.
-/

namespace FrameText

/-! ## Next-layer fields -/

/-- The EtherType of a layer, if it is one that an EtherType can announce. -/
def EtherType.ofFollower? : Option LayerKind → Option EtherType
  | some .dot1q => some .dot1q
  | some .dot1ad => some .dot1ad
  | some .ipv4 => some .ipv4
  | some .ipv6 => some .ipv6
  | _ => none

/-- The protocol of a layer, if it is one of the transport layers. -/
def IpProtocol.ofFollower? : Option LayerKind → Option IpProtocol
  | some .udp => some .udp
  | some .tcp => some .tcp
  | _ => none

/-- The UDP header in front of a layer: the port registered for it on both ends, if there is one. -/
def UdpHeader.ofFollower : Option LayerKind → UdpHeader
  | some .echo => { sourcePort := Limits.echoPort, destinationPort := Limits.echoPort }
  | some .vxlan => { sourcePort := Limits.vxlanPort, destinationPort := Limits.vxlanPort }
  | _ => {}

/-- A length as a 16-bit field, which holds its largest value if the length does not fit. -/
def lengthField (length : Nat) : UInt16 :=
  UInt16.ofNat (min length 65535)

namespace Layer

/-! ## The way down -/

/-- The number of bytes that a layer has of its own; a payload only sizes the frame. -/
def length : Layer → Nat
  | ether _ => Header.size EthernetHeader
  | vlan _ _ => Header.size VlanHeader
  | ipv4 _ _ => Header.size IPv4Header
  | ipv6 _ _ => Header.size IPv6Header
  | udp _ _ => Header.size UdpHeader
  | tcp _ => Header.size TcpHeader
  | vxlan _ => Header.size VxlanHeader
  | echo => 0
  | tsc _ => Header.size Timestamp
  | raw bytes => bytes.length
  | payload _ _ => 0

/-- The number of bytes in use once the layer is placed behind `offset` bytes. -/
def target (layer : Layer) (offset : Nat) : Nat :=
  match layer with
  | payload size _ => size.target offset
  | _ => offset + layer.length

/-- Records where the header of a layer stands. -/
def record (layer : Layer) (offset : Nat) (frame : Frame) : Frame :=
  match layer with
  | ether _ => frame.recordL2 ⟨offset, layer.length⟩
  | vlan _ _ => frame.extendL2 offset layer.length
  | ipv4 _ _ | ipv6 _ _ => frame.recordL3 ⟨offset, layer.length⟩
  | udp _ _ | tcp _ => frame.recordL4 ⟨offset, layer.length⟩
  | tsc _ => { frame with tscOffset := some offset }
  | vxlan _ | echo | raw _ | payload _ _ => frame

/-- Writes the bytes that do not depend on the layers behind. -/
def inscribe (layer : Layer) (offset : Nat) (frame : Frame) : Except Error Frame :=
  match layer with
  | tsc header => frame.writeHeader offset header
  | raw bytes => frame.write offset bytes
  | payload size fill =>
    if offset < size.target offset then
      frame.fill offset (size.target offset - offset) fill
    else
      .ok frame
  | _ => .ok frame

/-- Makes room for the layer behind the bytes in use, records its header, and writes what is known
already. -/
def place (layer : Layer) (frame : Frame) : Except Error Frame := do
  let grown ← frame.setLength (layer.target frame.dataLen)
  layer.inscribe frame.dataLen (layer.record frame.dataLen grown)

/-! ## The way back -/

/-- Where a transport layer keeps its checksum, and the form that a computed checksum takes
there. -/
def transportField? : Option LayerKind → Option (Nat × (UInt16 → UInt16))
  | some .udp => some (UdpHeader.checksumOffset, UdpHeader.wireChecksum)
  | some .tcp => some (TcpHeader.checksumOffset, id)
  | _ => none

/-- Fills in the checksum of the transport segment that starts at `start` and runs to the end of the
frame, if the layer behind the IP header is a transport layer and its checksum field is in use. -/
def sealTransport (frame : Frame) (start : Nat) (next : Option LayerKind)
    (checksum : Bytes → UInt16) : Except Error Frame :=
  match transportField? next with
  | none => .ok frame
  | some (field, wire) =>
    let length := frame.dataLen - start
    if length < field + 2 then
      .ok frame
    else do
      let cleared ← frame.write (start + field) [0, 0]
      let segment ← cleared.window start length
      cleared.write (start + field) (Bytes.ofUInt16 (wire (checksum segment)))

/-- The IPv4 header with what follows from the finished frame, checksum included. -/
def finishIPv4 (header : IPv4Header) (protocol : Option IpProtocol) (next : Option LayerKind)
    (length : Nat) : IPv4Header :=
  { header with
    totalLength := lengthField length
    protocol := (IpProtocol.ofFollower? next).getD (protocol.getD (.custom 0)) }.withChecksum

/-- The IPv6 header with what follows from the finished frame. -/
def finishIPv6 (header : IPv6Header) (protocol : Option IpProtocol) (next : Option LayerKind)
    (length : Nat) : IPv6Header :=
  { header with
    payloadLength := lengthField length
    nextHeader :=
      (IpProtocol.ofFollower? next).getD (protocol.getD (.custom IpProtocol.noNextHeader)) }

/-- The UDP header with what follows from the finished frame. -/
def finishUdp (sourcePort destinationPort : Option UInt16) (next : Option LayerKind)
    (length : Nat) : UdpHeader :=
  let header := UdpHeader.ofFollower next
  { header with
    sourcePort := sourcePort.getD header.sourcePort
    destinationPort := destinationPort.getD header.destinationPort
    length := lengthField length }

/-- Writes what depends on the layers behind; `offset` is where the layer was placed and `next` the
kind of the layer behind it. -/
def settle (layer : Layer) (offset : Nat) (next : Option LayerKind) (frame : Frame) :
    Except Error Frame :=
  match layer with
  | ether header =>
    frame.writeHeader offset
      { header with
        etherType := (EtherType.ofFollower? next).getD (.custom EtherType.placeholder) }
  | vlan tag header =>
    if next = some tag.kind then
      .error (.repeatedTag tag.kind)
    else
      frame.writeHeader offset
        { header with etherType := (EtherType.ofFollower? next).getD (.custom 0) }
  | ipv4 header protocol => do
    let header := finishIPv4 header protocol next (frame.dataLen - offset)
    let frame ← sealTransport frame (offset + Header.size IPv4Header) next
      (Checksum.overIPv4 header.source header.destination header.protocol.toUInt8)
    frame.writeHeader offset header
  | ipv6 header protocol => do
    let start := offset + Header.size IPv6Header
    let header := finishIPv6 header protocol next (frame.dataLen - start)
    let frame ← sealTransport frame start next
      (Checksum.overIPv6 header.source header.destination header.nextHeader.toUInt8)
    frame.writeHeader offset header
  | udp sourcePort destinationPort =>
    frame.writeHeader offset
      (finishUdp sourcePort destinationPort next (frame.dataLen - offset))
  | tcp header => frame.writeHeader offset header
  | vxlan header =>
    frame.writeHeader offset
      { header with
        nextProtocol :=
          if next = some LayerKind.ether then VxlanHeader.nextEthernet else header.nextProtocol }
  | echo | tsc _ | raw _ => .ok frame
  | payload size fill =>
    let target := size.target offset
    if target < frame.dataLen ∧ fill ≠ 0 then
      frame.fill target (frame.dataLen - target) fill
    else
      .ok frame

/-- The length that is reported for a layer when the encoder leaves it: what it covers of the
finished frame for IPv4 and UDP, what it added to the frame for the others. -/
def reportedLength (layer : Layer) (offset frameLength : Nat) : Nat :=
  match layer with
  | ipv4 _ _ | udp _ _ => frameLength - offset
  | _ => layer.target offset - offset

end Layer

end FrameText
