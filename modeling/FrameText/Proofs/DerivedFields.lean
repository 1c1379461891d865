import FrameText.Proofs.HeaderCodec
import FrameText.Proofs.Unwinding
import FrameText.Proofs.Walk

/-!
# Derived fields — what the encoder computes and dissection only shows

A dissected header is described by a layer.  The fields that the layer has parameters for come back
as they were; the others come back as the encoder derives them.

1. `FoundHeader.toLayer` is the layer that describes a header.
2. `Derived` says that the other fields of a header have the values that the encoder would derive,
   and `Consistent` says so of all headers of a frame.
3. `derived_…` reads this off bytes that the encoder wrote, and `written_…` is the converse: with
   these values, the encoder writes the bytes of the header again.
-/

namespace FrameText

open Bytes Layer

/-! ## Definitions -/

/-- The layer that describes a header: what parameters show, and defaults for the rest. -/
def FoundHeader.toLayer : FoundHeader → Layer
  | ether header => .ether { destination := header.destination, source := header.source }
  | vlan tag header => .vlan tag (.ofFields header.vlanId header.priority header.dropEligible)
  | ipv4 header =>
    .ipv4
      { tos := header.tos, identification := header.identification, ttl := header.ttl,
        source := header.source, destination := header.destination }
      (some (.ofUInt8 header.protocol.toUInt8))
  | ipv6 header =>
    .ipv6
      { hopLimit := header.hopLimit, source := header.source, destination := header.destination }
      (some (.ofUInt8 header.nextHeader.toUInt8))
  | udp header => .udp (some header.sourcePort) (some header.destinationPort)
  | tcp header =>
    .tcp
      { sourcePort := header.sourcePort, destinationPort := header.destinationPort,
        sequence := header.sequence, acknowledgment := header.acknowledgment,
        flags := header.flags, window := header.window }
  | vxlan header => .vxlan (.ofVni header.vni)
  | tsc header => .tsc header

/-- The checksum of a transport segment behind a header, with its checksum field cleared. -/
def transportChecksum (outer : Option FoundHeader) (protocol : UInt8) (segment : Bytes) : UInt16 :=
  match outer with
  | some (.ipv4 header) =>
    Checksum.overIPv4 header.source header.destination protocol segment
  | some (.ipv6 header) =>
    Checksum.overIPv6 header.source header.destination protocol segment
  | _ => 0

/-- Whether a header carries what the encoder would derive for it.  Its bytes and all behind them
are the segment, `outer` is the header in front of it and `next` the kind of the header behind
it. -/
def Derived (outer : Option FoundHeader) (header : FoundHeader) (next : Option LayerKind)
    (segment : Bytes) : Prop :=
  match header with
  | .ether header =>
    header.etherType.toUInt16 ∈ ([0x0800, 0x86DD, 0x8100, 0x88A8, 0x9000] : List UInt16)
  | .vlan tag header =>
    header.etherType.toUInt16 ∈ ([0x0800, 0x86DD, 0x8100, 0x88A8, 0] : List UInt16) ∧
      next ≠ some tag.kind
  | .ipv4 header =>
    header.versionIhl = 0x45 ∧ header.fragmentOffset = 0 ∧
      header.totalLength.toNat = segment.length ∧ header.checksum = header.computeChecksum
  | .ipv6 header =>
    header.vtcFlow = 0x60000000 ∧ header.payloadLength.toNat = segment.length - 40
  | .udp header =>
    header.length.toNat = segment.length ∧
      header.checksum =
        UdpHeader.wireChecksum (transportChecksum outer 17 (overwrite segment 6 [0, 0]))
  | .tcp header =>
    uint8At segment 12 = 0x50 ∧ header.urgentPointer = 0 ∧
      header.checksum = transportChecksum outer 6 (overwrite segment 16 [0, 0])
  | .vxlan header =>
    header.flags = 0x08 ∧
      (uint8At segment 1 = 0 ∧ uint8At segment 2 = 0 ∧ uint8At segment 7 = 0) ∧
      (header.nextProtocol = 0 ∨ header.nextProtocol = 3)
  | .tsc _ => True

/-- Whether all headers, which stand one behind the other at the start of the segment, carry what
the encoder would derive for them. -/
def Consistent : Option FoundHeader → List FoundHeader → Bytes → Prop
  | _, [], _ => True
  | outer, header :: rest, segment =>
    Derived outer header (rest.head?.map FoundHeader.kind) segment ∧
      Consistent (some header) rest (segment.drop header.length)

instance (outer : Option FoundHeader) (header : FoundHeader) (next : Option LayerKind)
    (segment : Bytes) : Decidable (Derived outer header next segment) :=
  match header with
  | .ether _ => inferInstanceAs (Decidable (_ ∈ _))
  | .vlan _ _ => inferInstanceAs (Decidable (_ ∧ _))
  | .ipv4 _ => inferInstanceAs (Decidable (_ ∧ _))
  | .ipv6 _ => inferInstanceAs (Decidable (_ ∧ _))
  | .udp _ => inferInstanceAs (Decidable (_ ∧ _))
  | .tcp _ => inferInstanceAs (Decidable (_ ∧ _))
  | .vxlan _ => inferInstanceAs (Decidable (_ ∧ _))
  | .tsc _ => inferInstanceAs (Decidable True)

instance decidableConsistent : (outer : Option FoundHeader) → (headers : List FoundHeader) →
    (segment : Bytes) → Decidable (Consistent outer headers segment)
  | _, [], _ => inferInstanceAs (Decidable True)
  | _, header :: rest, segment =>
    have := decidableConsistent (some header) rest (segment.drop header.length)
    inferInstanceAs (Decidable (_ ∧ _))

/-- The fields of a layer that no parameter sets have their defaults. -/
def Layer.Unset : Layer → Prop
  | ipv4 header _ => header.versionIhl = 0x45 ∧ header.fragmentOffset = 0
  | ipv6 header _ => header.vtcFlow = 0x60000000
  | tcp header => header.dataOffset = 5 ∧ header.urgentPointer = 0
  | vxlan header => header.flags = 0x08 ∧ header.nextProtocol = 0
  | _ => True

theorem FoundHeader.unset_toLayer (header : FoundHeader) : header.toLayer.Unset := by
  cases header with
  | ipv4 _ => exact ⟨rfl, rfl⟩
  | ipv6 _ => exact rfl
  | tcp _ => exact ⟨rfl, rfl⟩
  | vxlan _ => exact ⟨rfl, rfl⟩
  | _ => trivial

/-! ## Bytes that the encoder wrote -/

section Written

variable {segment : Bytes} {next : Option LayerKind}

theorem toNat_lengthField {length : Nat} (small : length < 65536) :
    (lengthField length).toNat = length := by
  rw [lengthField, Nat.min_eq_left (Nat.le_of_lt_succ small), UInt16.toNat_ofNat_of_lt' small]

theorem lengthField_eq {field : UInt16} {length : Nat} (small : length < 65536)
    (derived : field.toNat = length) : lengthField length = field :=
  UInt16.toNat_inj.1 ((toNat_lengthField small).trans derived.symm)

/-- A type field announces what follows, or has its fallback. -/
theorem typeNumber_mem (next : Option LayerKind) (fallback : UInt16) :
    ((EtherType.ofFollower? next).getD (.custom fallback)).toUInt16 ∈
      ([0x0800, 0x86DD, 0x8100, 0x88A8, fallback] : List UInt16) := by
  rcases next with _ | follower
  · simp [EtherType.ofFollower?, EtherType.toUInt16]
  · cases follower <;> simp [EtherType.ofFollower?, EtherType.toUInt16]

/-- Bytes that start with a written header are read from that header. -/
theorem get_of_take {α : Type} [Header α] {header : α}
    (written : segment.take (Header.size α) = Header.put header) :
    (Header.get segment : α) = Header.get (Header.put header ++ segment.drop (Header.size α)) := by
  rw [← written, List.take_append_drop]

theorem get_ether {header : EthernetHeader} (written : segment.take 14 = Header.put header) :
    (Header.get segment : EthernetHeader) =
      { header with etherType := .ofUInt16 header.etherType.toUInt16 } :=
  (get_of_take written).trans (EthernetHeader.get_put _ _)

theorem get_vlan {header : VlanHeader} (written : segment.take 4 = Header.put header) :
    (Header.get segment : VlanHeader) = header.cut :=
  (get_of_take written).trans (VlanHeader.get_put _ _)

theorem get_ipv4 {header : IPv4Header} (written : segment.take 20 = Header.put header) :
    (Header.get segment : IPv4Header) =
      { header with protocol := .ofUInt8 header.protocol.toUInt8 } :=
  (get_of_take written).trans (IPv4Header.get_put _ _)

theorem get_ipv6 {header : IPv6Header} (written : segment.take 40 = Header.put header) :
    (Header.get segment : IPv6Header) =
      { header with nextHeader := .ofUInt8 header.nextHeader.toUInt8 } :=
  (get_of_take written).trans (IPv6Header.get_put _ _)

theorem get_udp {header : UdpHeader} {checksum : UInt16}
    (written : segment.take 8 = overwrite (Header.put header) 6 (ofUInt16 checksum)) :
    (Header.get segment : UdpHeader) = { header with checksum := checksum } := by
  rw [← UdpHeader.put_checksum] at written
  exact (get_of_take written).trans (UdpHeader.get_put _ _)

theorem get_vxlan {header : VxlanHeader} (written : segment.take 8 = Header.put header) :
    (Header.get segment : VxlanHeader) =
      { header with vni := UInt32.ofNat (header.vni.toNat % 0x1000000) } :=
  (get_of_take written).trans (VxlanHeader.get_put _ _)

theorem derived_ether {header : EthernetHeader}
    (written : segment.take 14 = Header.put { header with
      etherType := (EtherType.ofFollower? next).getD (.custom EtherType.placeholder) }) :
    (Header.get segment : EthernetHeader).etherType.toUInt16 ∈
      ([0x0800, 0x86DD, 0x8100, 0x88A8, 0x9000] : List UInt16) := by
  rw [get_ether written, EtherType.toUInt16_ofUInt16]
  exact typeNumber_mem next _

theorem derived_vlan {header : VlanHeader}
    (written : segment.take 4 = Header.put { header with
      etherType := (EtherType.ofFollower? next).getD (.custom 0) }) :
    (Header.get segment : VlanHeader).etherType.toUInt16 ∈
      ([0x0800, 0x86DD, 0x8100, 0x88A8, 0] : List UInt16) := by
  rw [get_vlan written, VlanHeader.cut, EtherType.toUInt16_ofUInt16]
  exact typeNumber_mem next _

theorem derived_ipv4 {outer : Option FoundHeader} {behind : Option LayerKind} {header : IPv4Header}
    {protocol : Option IpProtocol} (unset : (ipv4 header protocol).Unset)
    (small : segment.length < 65536)
    (written : segment.take 20 = Header.put (finishIPv4 header protocol next segment.length)) :
    Derived outer (.ipv4 (Header.get segment)) behind segment := by
  have same : ∀ header : IPv4Header, IPv4Header.computeChecksum
      { header with protocol := .ofUInt8 header.protocol.toUInt8 } = header.computeChecksum := by
    intro header
    simp only [IPv4Header.computeChecksum, Header.put, IpProtocol.toUInt8_ofUInt8]
  rw [get_ipv4 written]
  refine ⟨unset.1, unset.2, toNat_lengthField small, ?_⟩
  rw [same]
  rfl

theorem derived_ipv6 {outer : Option FoundHeader} {behind : Option LayerKind} {header : IPv6Header}
    {protocol : Option IpProtocol} (unset : (ipv6 header protocol).Unset)
    (small : segment.length < 65536)
    (written : segment.take 40 =
      Header.put (finishIPv6 header protocol next (segment.length - 40))) :
    Derived outer (.ipv6 (Header.get segment)) behind segment := by
  rw [get_ipv6 written]
  exact ⟨unset, toNat_lengthField (by omega)⟩

theorem derived_udp {outer : Option FoundHeader} {behind : Option LayerKind}
    {source destination : Option UInt16} (small : segment.length < 65536)
    (written : segment.take 8 =
      overwrite (Header.put (finishUdp source destination next segment.length)) 6
        (ofUInt16 (UdpHeader.wireChecksum
          (transportChecksum outer 17 (overwrite segment 6 [0, 0]))))) :
    Derived outer (.udp (Header.get segment)) behind segment := by
  rw [get_udp written]
  exact ⟨toNat_lengthField small, rfl⟩

theorem derived_tcp {outer : Option FoundHeader} {behind : Option LayerKind} {header : TcpHeader}
    (unset : (tcp header).Unset)
    (written : segment.take 20 =
      overwrite (Header.put header) 16
        (ofUInt16 (transportChecksum outer 6 (overwrite segment 16 [0, 0])))) :
    Derived outer (.tcp (Header.get segment)) behind segment := by
  rw [← TcpHeader.put_checksum] at written
  have offset : uint8At segment 12 = 0x50 := by
    rw [← List.take_append_drop 20 segment, written]
    simp [Header.put, unset.1]
  rw [(get_of_take written).trans (TcpHeader.get_put _ _)]
  exact ⟨offset, unset.2, rfl⟩

theorem derived_vxlan {outer : Option FoundHeader} {behind : Option LayerKind}
    {header : VxlanHeader} (unset : (vxlan header).Unset)
    (written : segment.take 8 = Header.put { header with
      nextProtocol :=
        if next = some LayerKind.ether then VxlanHeader.nextEthernet else header.nextProtocol }) :
    Derived outer (.vxlan (Header.get segment)) behind segment := by
  have reserved : uint8At segment 1 = 0 ∧ uint8At segment 2 = 0 ∧ uint8At segment 7 = 0 := by
    rw [← List.take_append_drop 8 segment, written, VxlanHeader.put_eq]
    simp
  rw [get_vxlan written]
  refine ⟨unset.1, reserved, ?_⟩
  by_cases ethernet : next = some LayerKind.ether
  · exact .inr (if_pos ethernet)
  · exact .inl ((if_neg ethernet).trans unset.2)

end Written

/-! ## Headers that come back -/

/-- The kind of layer that a reader leads to: that of its header, or one without a reader of its own
where there is none. -/
def Reader.Announces (reader : Reader) (next : Option LayerKind) : Prop :=
  match reader with
  | .ether => next = some .ether
  | .vlan tag => next = some tag.kind
  | .ipv4 => next = some .ipv4
  | .ipv6 => next = some .ipv6
  | .udp => next = some .udp
  | .tcp => next = some .tcp
  | .vxlan => next = some .vxlan
  | .tsc => next = some .tsc ∨ next = some .raw ∨ next = some .payload
  | .payload => next = some .raw ∨ next = some .payload

section Regenerated

variable {segment : Bytes} {next : Option LayerKind}

/-- A type that is allowed but announces nothing is the fallback. -/
theorem custom_of_allowed {number value fallback : UInt16}
    (allowed : number ∈ ([0x0800, 0x86DD, 0x8100, 0x88A8, fallback] : List UInt16))
    (custom : EtherType.ofUInt16 number = .custom value) : value = fallback := by
  have same : number = value := by
    rw [← EtherType.toUInt16_ofUInt16 number, custom]
    rfl
  simp only [List.mem_cons, List.not_mem_nil, or_false] at allowed
  rcases allowed with rfl | rfl | rfl | rfl | rfl
  · cases custom
  · cases custom
  · cases custom
  · cases custom
  · exact same.symm

/-- The encoder announces what dissection was told. -/
theorem typeNumber_of_announces {number fallback : UInt16}
    (allowed : number ∈ ([0x0800, 0x86DD, 0x8100, 0x88A8, fallback] : List UInt16))
    (announced : (Reader.ofEtherType (.ofUInt16 number)).Announces next) :
    ((EtherType.ofFollower? next).getD (.custom fallback)).toUInt16 = number := by
  rw [← EtherType.toUInt16_ofUInt16 number]
  cases type : EtherType.ofUInt16 number with
  | custom value =>
    rw [type] at announced
    have none : EtherType.ofFollower? next = none := by
      rcases announced with rfl | rfl <;> rfl
    rw [none, custom_of_allowed allowed type]
    rfl
  | _ =>
    rw [type] at announced
    rw [announced]
    rfl

theorem protocolNumber_of_announces {protocol : IpProtocol}
    (announced : (Reader.ofProtocol protocol).Announces next) :
    ((IpProtocol.ofFollower? next).getD (IpProtocol.ofUInt8 protocol.toUInt8)).toUInt8 =
      protocol.toUInt8 := by
  cases protocol with
  | udp =>
    rw [announced]
    rfl
  | tcp =>
    rw [announced]
    rfl
  | custom value =>
    have none : IpProtocol.ofFollower? next = none := by
      rcases announced with rfl | rfl | rfl <;> rfl
    rw [none]
    exact IpProtocol.toUInt8_ofUInt8 value

theorem written_ether (fits : 14 ≤ segment.length)
    (derived : (Header.get segment : EthernetHeader).etherType.toUInt16 ∈
      ([0x0800, 0x86DD, 0x8100, 0x88A8, 0x9000] : List UInt16))
    (announced :
      (Reader.ofEtherType (Header.get segment : EthernetHeader).etherType).Announces next) :
    segment.take 14 = Header.put
      { destination := (Header.get segment : EthernetHeader).destination
        source := (Header.get segment : EthernetHeader).source
        etherType := (EtherType.ofFollower? next).getD (.custom EtherType.placeholder) :
          EthernetHeader } := by
  have known : (Header.get segment : EthernetHeader).etherType =
      .ofUInt16 (Header.get segment : EthernetHeader).etherType.toUInt16 :=
    congrArg EtherType.ofUInt16 (EtherType.toUInt16_ofUInt16 _).symm
  rw [known] at announced
  have number := typeNumber_of_announces derived announced
  rw [← EthernetHeader.put_get fits]
  simp only [Header.put, EtherType.placeholder, number]

theorem written_vlan (fits : 4 ≤ segment.length)
    (derived : (Header.get segment : VlanHeader).etherType.toUInt16 ∈
      ([0x0800, 0x86DD, 0x8100, 0x88A8, 0] : List UInt16))
    (announced : (Reader.ofEtherType (Header.get segment : VlanHeader).etherType).Announces next) :
    segment.take 4 = Header.put
      { VlanHeader.ofFields (Header.get segment : VlanHeader).vlanId
          (Header.get segment : VlanHeader).priority
          (Header.get segment : VlanHeader).dropEligible with
        etherType := (EtherType.ofFollower? next).getD (.custom 0) } := by
  have known : (Header.get segment : VlanHeader).etherType =
      .ofUInt16 (Header.get segment : VlanHeader).etherType.toUInt16 :=
    congrArg EtherType.ofUInt16 (EtherType.toUInt16_ofUInt16 _).symm
  rw [known] at announced
  have number := typeNumber_of_announces derived announced
  have control : ∀ (header : VlanHeader) (type : EtherType),
      ({ VlanHeader.ofFields header.vlanId header.priority header.dropEligible with
        etherType := type } : VlanHeader).control = header.control := by
    intro header type
    apply UInt16.toNat_inj.1
    simp [VlanHeader.toNat_control, VlanHeader.ofFields]
  rw [← VlanHeader.put_get fits]
  simp only [Header.put, control, number]

theorem written_ipv4 (fits : 20 ≤ segment.length) {outer : Option FoundHeader}
    {behind : Option LayerKind} (small : segment.length < 65536)
    (derived : Derived outer (.ipv4 (Header.get segment)) behind segment)
    (announced : (Reader.ofProtocol (Header.get segment : IPv4Header).protocol).Announces next) :
    segment.take 20 =
      (FoundHeader.ipv4 (Header.get segment)).toLayer.bytes next segment.length := by
  rw [← IPv4Header.put_get fits]
  generalize (Header.get segment : IPv4Header) = header at derived announced ⊢
  rcases derived with ⟨version, fragment, length, checksum⟩
  have number := protocolNumber_of_announces announced
  have field := lengthField_eq small length
  -- But for its checksum the regenerated header is the old one, so that it has the same checksum.
  have sum : IPv4Header.computeChecksum
      { tos := header.tos, identification := header.identification, ttl := header.ttl,
        source := header.source, destination := header.destination,
        totalLength := header.totalLength,
        protocol :=
          (IpProtocol.ofFollower? next).getD (IpProtocol.ofUInt8 header.protocol.toUInt8) } =
      header.checksum := by
    rw [checksum]
    simp only [IPv4Header.computeChecksum, Header.put, number, version, fragment]
  simp only [FoundHeader.toLayer, Layer.bytes, headerBytes, Option.getD_some, finishIPv4,
    IPv4Header.withChecksum, field, sum, Header.put, number, version, fragment]

theorem written_ipv6 (fits : 40 ≤ segment.length) {outer : Option FoundHeader}
    {behind : Option LayerKind} (small : segment.length < 65536)
    (derived : Derived outer (.ipv6 (Header.get segment)) behind segment)
    (announced : (Reader.ofProtocol (Header.get segment : IPv6Header).nextHeader).Announces next) :
    segment.take 40 =
      (FoundHeader.ipv6 (Header.get segment)).toLayer.bytes next segment.length := by
  rw [← IPv6Header.put_get fits]
  generalize (Header.get segment : IPv6Header) = header at derived announced ⊢
  rcases derived with ⟨version, length⟩
  have number := protocolNumber_of_announces announced
  have field : lengthField (segment.length - Header.size IPv6Header) = header.payloadLength :=
    lengthField_eq (by omega) length
  simp only [FoundHeader.toLayer, Layer.bytes, headerBytes, Option.getD_some, finishIPv6,
    Header.put, number, field, version]

theorem written_udp (fits : 8 ≤ segment.length) {outer : Option FoundHeader}
    {behind : Option LayerKind} (small : segment.length < 65536)
    (derived : Derived outer (.udp (Header.get segment)) behind segment) :
    segment.take 8 =
      overwrite ((FoundHeader.udp (Header.get segment)).toLayer.bytes next segment.length) 6
        (ofUInt16 (UdpHeader.wireChecksum
          (transportChecksum outer 17 (overwrite segment 6 [0, 0])))) := by
  rw [← UdpHeader.put_get fits]
  generalize (Header.get segment : UdpHeader) = header at derived ⊢
  rcases derived with ⟨length, checksum⟩
  have field := lengthField_eq small length
  rw [← checksum, FoundHeader.toLayer, Layer.bytes, headerBytes, Option.getD_some,
    ← UdpHeader.put_checksum]
  simp only [finishUdp, field, Option.getD_some]

theorem written_tcp (fits : 20 ≤ segment.length) {outer : Option FoundHeader}
    {behind : Option LayerKind}
    (derived : Derived outer (.tcp (Header.get segment)) behind segment) :
    segment.take 20 =
      overwrite ((FoundHeader.tcp (Header.get segment)).toLayer.bytes next segment.length) 16
        (ofUInt16 (transportChecksum outer 6 (overwrite segment 16 [0, 0]))) := by
  rcases derived with ⟨offset, urgent, checksum⟩
  have byte : [UInt8.ofNat ((uint8At segment 12).toNat / 16 * 16)] =
      slice (segment.take 20) 12 1 := by
    rw [slice_take (by omega), ← singleton_uint8At (by omega), offset]
    rfl
  have known : (Header.get segment : TcpHeader).dataOffset = 5 := by
    show UInt8.ofNat ((uint8At segment 12).toNat / 16) = 5
    rw [offset]
    rfl
  have whole := TcpHeader.put_get fits
  rw [byte, overwrite_slice (by rw [List.length_take]; omega)] at whole
  rw [← whole]
  generalize (Header.get segment : TcpHeader) = header at urgent checksum known ⊢
  rw [← checksum, FoundHeader.toLayer, Layer.bytes, headerBytes, Option.getD_some,
    ← TcpHeader.put_checksum]
  simp only [Header.put, known, urgent]

theorem written_vxlan (fits : 8 ≤ segment.length) {outer : Option FoundHeader}
    {behind : Option LayerKind}
    (derived : Derived outer (.vxlan (Header.get segment)) behind segment)
    (announced : (Reader.ofVxlan (Header.get segment)).Announces next) :
    segment.take 8 =
      (FoundHeader.vxlan (Header.get segment)).toLayer.bytes next segment.length := by
  rcases derived with ⟨flags, ⟨first, second, last⟩, protocol⟩
  have parts : segment.take 8 = [uint8At segment 0] ++ [uint8At segment 1] ++
      [uint8At segment 2] ++ [uint8At segment 3] ++ slice segment 4 3 ++ [uint8At segment 7] := by
    simp (disch := omega) only [singleton_uint8At, slice_append_slice]
    rfl
  have whole : Header.put (Header.get segment : VxlanHeader) = segment.take 8 := by
    rw [VxlanHeader.put_get fits, parts, first, second, last]
    rfl
  rw [← whole]
  generalize (Header.get segment : VxlanHeader) = header at flags protocol announced ⊢
  have number : (if next = some LayerKind.ether then VxlanHeader.nextEthernet else 0) =
      header.nextProtocol := by
    unfold Reader.ofVxlan at announced
    rcases protocol with none | ethernet
    · rw [if_neg (by rw [none]; decide)] at announced
      rcases announced with rfl | rfl <;> exact none.symm
    · rw [if_pos (by rw [ethernet]; rfl)] at announced
      have follows : next = some LayerKind.ether := announced
      rw [if_pos follows, ethernet]
      rfl
  have identifier : (VxlanHeader.ofVni header.vni).vni.toNat % 0x1000000 =
      header.vni.toNat % 0x1000000 := by
    rw [VxlanHeader.ofVni, UInt32.toNat_ofNat']
    omega
  rw [FoundHeader.toLayer, Layer.bytes, headerBytes, Option.getD_some, VxlanHeader.put_eq,
    VxlanHeader.put_eq, flags, identifier, ← number]
  rfl

theorem written_tsc (fits : 12 ≤ segment.length) (marked : Timestamp.startsAt segment = true) :
    segment.take 12 =
      (FoundHeader.tsc (Header.get segment)).toLayer.bytes next segment.length := by
  rcases Bool.and_eq_true_iff.1 marked with ⟨-, opens⟩
  have mark : slice segment 0 4 = Timestamp.mark :=
    (List.prefix_iff_eq_take.1 (List.isPrefixOf_iff_prefix.1 opens)).symm
  calc
    segment.take 12 = slice segment 0 4 ++ slice segment 4 8 := by
      rw [slice_append_slice rfl, slice_zero]
    _ = Timestamp.mark ++ slice segment 4 8 := by rw [mark]
    _ = Header.put (Header.get segment : Timestamp) := (Timestamp.put_get fits).symm

end Regenerated

end FrameText
