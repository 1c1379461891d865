import FrameText.Header.Ethernet
import FrameText.Header.IPv4
import FrameText.Header.IPv6
import FrameText.Header.Tcp
import FrameText.Header.Timestamp
import FrameText.Header.Udp
import FrameText.Header.Vlan
import FrameText.Header.Vxlan
import FrameText.Proofs.Bytes

/-!
# Header codecs

For every header of fixed layout:

* `get_put` reads back what `put` wrote, up to the widths of the fields and the names of registered
  numbers;
* `put_get` writes the bytes that `get` read, up to the bytes that a header does not keep.
-/

namespace FrameText

open Bytes

/-! ## Addresses -/

section Addresses

variable {b : UInt8} {bytes front rest : Bytes} {offset : Nat}

@[simp] theorem MacAddress.length_octets (mac : MacAddress) : mac.octets.length = 6 := by
  simp [MacAddress.octets]

@[simp] theorem MacAddress.readAt_append (behind : front.length ≤ offset) :
    MacAddress.readAt (front ++ rest) offset = MacAddress.readAt rest (offset - front.length) := by
  rw [MacAddress.readAt, MacAddress.readAt, slice_append_right behind]

@[simp] theorem MacAddress.readAt_octets (mac : MacAddress) :
    MacAddress.readAt (mac.octets ++ rest) 0 = mac := rfl

theorem MacAddress.octets_readAt (fits : offset + 6 ≤ bytes.length) :
    (MacAddress.readAt bytes offset).octets = slice bytes offset 6 := by
  unfold MacAddress.readAt
  match h : slice bytes offset 6, length_slice fits with
  | [_, _, _, _, _, _], _ => rfl

@[simp] theorem IPv4Address.length_octets (ip : IPv4Address) : ip.octets.length = 4 := by
  simp [IPv4Address.octets]

@[simp] theorem IPv4Address.readAt_append (behind : front.length ≤ offset) :
    IPv4Address.readAt (front ++ rest) offset =
      IPv4Address.readAt rest (offset - front.length) := by
  rw [IPv4Address.readAt, IPv4Address.readAt, slice_append_right behind]

@[simp] theorem IPv4Address.readAt_cons (behind : 0 < offset) :
    IPv4Address.readAt (b :: rest) offset = IPv4Address.readAt rest (offset - 1) :=
  @IPv4Address.readAt_append [b] rest offset behind

@[simp] theorem IPv4Address.readAt_octets (ip : IPv4Address) :
    IPv4Address.readAt (ip.octets ++ rest) 0 = ip := rfl

theorem IPv4Address.octets_readAt (fits : offset + 4 ≤ bytes.length) :
    (IPv4Address.readAt bytes offset).octets = slice bytes offset 4 := by
  unfold IPv4Address.readAt
  match h : slice bytes offset 4, length_slice fits with
  | [_, _, _, _], _ => rfl

attribute [simp] IPv6Address.length_octets

@[simp] theorem IPv6Address.readAt_append (behind : front.length ≤ offset) :
    IPv6Address.readAt (front ++ rest) offset =
      IPv6Address.readAt rest (offset - front.length) := by
  have shift : ∀ i, field (front ++ rest) (offset + 2 * i) 2 =
      field rest (offset - front.length + 2 * i) 2 := by
    intro i
    rw [field_append (by omega), Nat.sub_add_comm behind]
  simp only [IPv6Address.readAt, shift]

@[simp] theorem IPv6Address.readAt_cons (behind : 0 < offset) :
    IPv6Address.readAt (b :: rest) offset = IPv6Address.readAt rest (offset - 1) :=
  @IPv6Address.readAt_append [b] rest offset behind

theorem IPv6Address.octets_eq (ip : IPv6Address) :
    ip.octets = ofUInt16 ip.a ++ (ofUInt16 ip.b ++ (ofUInt16 ip.c ++ (ofUInt16 ip.d ++
      (ofUInt16 ip.e ++ (ofUInt16 ip.f ++ (ofUInt16 ip.g ++ ofUInt16 ip.h)))))) := by
  simp [IPv6Address.octets, IPv6Address.groups, ofUInt16]

@[simp] theorem IPv6Address.readAt_octets (ip : IPv6Address) :
    IPv6Address.readAt (ip.octets ++ rest) 0 = ip := by
  have group : ∀ o, UInt16.ofNat (field (ip.octets ++ rest) o 2) = uint16At (ip.octets ++ rest) o :=
    fun _ => rfl
  simp only [IPv6Address.readAt, group]
  simp [IPv6Address.octets_eq]

theorem IPv6Address.octets_readAt (fits : offset + 16 ≤ bytes.length) :
    (IPv6Address.readAt bytes offset).octets = slice bytes offset 16 := by
  have group : ∀ o, UInt16.ofNat (field bytes o 2) = uint16At bytes o := fun _ => rfl
  simp (disch := omega) only [IPv6Address.octets_eq, IPv6Address.readAt, group, ofUInt16_uint16At,
    slice_append_slice]
  rfl

end Addresses

/-! ## Ethernet -/

theorem EthernetHeader.get_put (header : EthernetHeader) (rest : Bytes) :
    Header.get (Header.put header ++ rest) =
      { header with etherType := .ofUInt16 header.etherType.toUInt16 } := by
  simp [Header.get, Header.put]

theorem EthernetHeader.put_get {bytes : Bytes} (fits : 14 ≤ bytes.length) :
    Header.put (Header.get bytes : EthernetHeader) = bytes.take 14 := by
  simp (disch := omega) only [Header.put, Header.get, EtherType.toUInt16_ofUInt16,
    MacAddress.octets_readAt, ofUInt16_uint16At, slice_append_slice]
  rfl

/-! ## VLAN -/

/-- The fields of a tag, each cut to its width. -/
def VlanHeader.cut (header : VlanHeader) : VlanHeader :=
  { VlanHeader.ofFields header.vlanId header.priority header.dropEligible with
    etherType := .ofUInt16 header.etherType.toUInt16 }

theorem VlanHeader.toNat_control (header : VlanHeader) :
    header.control.toNat =
      header.priority.toNat % 8 * 8192 + header.dropEligible.toNat * 4096 +
        header.vlanId.toNat % 4096 := by
  have bit := header.dropEligible.toNat_lt
  rw [VlanHeader.control, UInt16.toNat_ofNat']
  omega

theorem VlanHeader.get_put (header : VlanHeader) (rest : Bytes) :
    Header.get (Header.put header ++ rest) = header.cut := by
  have read : (Header.get (Header.put header ++ rest) : VlanHeader) =
      .ofControl header.control (.ofUInt16 header.etherType.toUInt16) := by
    simp [Header.get, Header.put]
  -- The three fields are the digits of the control word.
  have control := header.toNat_control
  have bit := header.dropEligible.toNat_lt
  have low : header.control.toNat % 4096 = header.vlanId.toNat % 4096 := by omega
  have high : header.control.toNat / 8192 = header.priority.toNat % 8 := by omega
  have middle : header.control.toNat / 4096 % 2 = header.dropEligible.toNat := by omega
  rw [read, VlanHeader.ofControl, low, high, middle, VlanHeader.cut, VlanHeader.ofFields]
  cases header.dropEligible <;> rfl

/-- The fields of a tag are the digits of its control word. -/
theorem VlanHeader.toNat_ofControl (control : UInt16) (type : EtherType) :
    (VlanHeader.ofControl control type).vlanId.toNat = control.toNat % 4096 ∧
      (VlanHeader.ofControl control type).priority.toNat = control.toNat / 8192 ∧
      (VlanHeader.ofControl control type).dropEligible.toNat = control.toNat / 4096 % 2 := by
  have small := control.toNat_lt
  have bit : (control.toNat / 4096 % 2 == 1).toNat = control.toNat / 4096 % 2 := by
    rcases Nat.mod_two_eq_zero_or_one (control.toNat / 4096) with h | h <;> rw [h] <;> rfl
  refine ⟨?_, ?_, bit⟩
  · rw [VlanHeader.ofControl, UInt16.toNat_ofNat']
    omega
  · rw [VlanHeader.ofControl, UInt8.toNat_ofNat']
    omega

theorem VlanHeader.control_ofControl (control : UInt16) (type : EtherType) :
    (VlanHeader.ofControl control type).control = control := by
  rcases VlanHeader.toNat_ofControl control type with ⟨vlanId, priority, dropEligible⟩
  have small := control.toNat_lt
  apply UInt16.toNat_inj.1
  rw [VlanHeader.toNat_control, vlanId, priority, dropEligible]
  omega

theorem VlanHeader.put_get {bytes : Bytes} (fits : 4 ≤ bytes.length) :
    Header.put (Header.get bytes : VlanHeader) = bytes.take 4 := by
  have type : ∀ control type, (VlanHeader.ofControl control type).etherType = type :=
    fun _ _ => rfl
  simp (disch := omega) only [Header.put, Header.get, VlanHeader.control_ofControl, type,
    EtherType.toUInt16_ofUInt16, ofUInt16_uint16At, slice_append_slice]
  rfl

/-! ## IPv4 -/

theorem IPv4Header.get_put (header : IPv4Header) (rest : Bytes) :
    Header.get (Header.put header ++ rest) =
      { header with protocol := .ofUInt8 header.protocol.toUInt8 } := by
  simp [Header.get, Header.put]

theorem IPv4Header.put_get {bytes : Bytes} (fits : 20 ≤ bytes.length) :
    Header.put (Header.get bytes : IPv4Header) = bytes.take 20 := by
  simp (disch := omega) only [Header.put, Header.get, IpProtocol.toUInt8_ofUInt8,
    IPv4Address.octets_readAt, ofUInt16_uint16At, pair_uint8At, slice_append_slice]
  rfl

/-- Writing another checksum into an IPv4 header changes the two bytes that it stands in. -/
theorem IPv4Header.put_checksum (header : IPv4Header) (checksum : UInt16) :
    Header.put { header with checksum := checksum } =
      overwrite (Header.put header) 10 (ofUInt16 checksum) := rfl

/-- The checksum of an IPv4 header covers the header with its checksum cleared. -/
theorem IPv4Header.put_withChecksum (header : IPv4Header) :
    Header.put header.withChecksum =
      overwrite (Header.put header.withChecksum) 10
        (ofUInt16 (Checksum.ofBytes (overwrite (Header.put header.withChecksum) 10 [0, 0]))) := by
  have length : (Header.put header).length = 20 := Header.length_put header
  have zeros : ([0, 0] : Bytes) = ofUInt16 0 := rfl
  -- Only the bytes of the checksum differ, and these are cleared for the sum.
  have cleared : header.computeChecksum =
      Checksum.ofBytes (overwrite (Header.put header) 10 (ofUInt16 0)) :=
    congrArg Checksum.ofBytes (header.put_checksum 0)
  rw [withChecksum, put_checksum header header.computeChecksum, zeros,
    overwrite_overwrite (by simp) (by omega), overwrite_overwrite (by simp) (by omega), ← cleared]

/-- A header without its checksum does not show which checksum it had. -/
theorem IPv4Header.clear_withChecksum (header : IPv4Header) :
    overwrite (Header.put header.withChecksum) 10 [0, 0] =
      Header.put { header with checksum := 0 } := by
  have length : (Header.put header).length = 20 := Header.length_put header
  have zeros : ([0, 0] : Bytes) = ofUInt16 0 := rfl
  rw [withChecksum, put_checksum header header.computeChecksum, zeros,
    overwrite_overwrite (by simp) (by omega), ← put_checksum]

theorem IPv4Header.slice_addresses (header : IPv4Header) :
    slice (Header.put header) 12 8 = header.source.octets ++ header.destination.octets := rfl

/-! ## IPv6 -/

theorem IPv6Header.get_put (header : IPv6Header) (rest : Bytes) :
    Header.get (Header.put header ++ rest) =
      { header with nextHeader := .ofUInt8 header.nextHeader.toUInt8 } := by
  simp [Header.get, Header.put]

theorem IPv6Header.put_get {bytes : Bytes} (fits : 40 ≤ bytes.length) :
    Header.put (Header.get bytes : IPv6Header) = bytes.take 40 := by
  simp (disch := omega) only [Header.put, Header.get, IpProtocol.toUInt8_ofUInt8,
    IPv6Address.octets_readAt, ofUInt16_uint16At, ofUInt32_uint32At, pair_uint8At,
    slice_append_slice]
  rfl

theorem IPv6Header.slice_addresses (header : IPv6Header) :
    slice (Header.put header) 8 32 = header.source.octets ++ header.destination.octets := rfl

/-! ## UDP -/

theorem UdpHeader.get_put (header : UdpHeader) (rest : Bytes) :
    Header.get (Header.put header ++ rest) = header := by
  simp [Header.get, Header.put]

theorem UdpHeader.put_get {bytes : Bytes} (fits : 8 ≤ bytes.length) :
    Header.put (Header.get bytes : UdpHeader) = bytes.take 8 := by
  simp (disch := omega) only [Header.put, Header.get, ofUInt16_uint16At, slice_append_slice]
  rfl

/-- Writing another checksum into a UDP header changes the two bytes that it stands in. -/
theorem UdpHeader.put_checksum (header : UdpHeader) (checksum : UInt16) :
    Header.put { header with checksum := checksum } =
      overwrite (Header.put header) 6 (ofUInt16 checksum) := rfl

/-! ## TCP -/

theorem TcpHeader.get_put (header : TcpHeader) (rest : Bytes) :
    Header.get (Header.put header ++ rest) =
      { header with dataOffset := UInt8.ofNat (header.dataOffset.toNat % 16) } := by
  have offset : header.dataOffset.toNat % 16 * 16 % 256 / 16 = header.dataOffset.toNat % 16 := by
    omega
  simp [Header.get, Header.put, offset]

/-- The header length is the upper half of its byte. -/
theorem TcpHeader.toNat_dataOffset_get {bytes : Bytes} (fits : 20 ≤ bytes.length) :
    (Header.get bytes : TcpHeader).dataOffset.toNat = field bytes 12 1 / 16 := by
  have small := (uint8At bytes 12).toNat_lt
  rw [← toNat_uint8At (show 12 + 1 ≤ bytes.length by omega)]
  simp only [Header.get, UInt8.toNat_ofNat']
  omega

/-- A header does not keep the four reserved bits behind the header length. -/
theorem TcpHeader.put_get {bytes : Bytes} (fits : 20 ≤ bytes.length) :
    Header.put (Header.get bytes : TcpHeader) =
      overwrite (bytes.take 20) 12 [UInt8.ofNat ((uint8At bytes 12).toNat / 16 * 16)] := by
  -- The upper half of the byte comes back, with the reserved half cleared.
  have nibble : UInt8.ofNat ((UInt8.ofNat ((uint8At bytes 12).toNat / 16)).toNat % 16 * 16) =
      UInt8.ofNat ((uint8At bytes 12).toNat / 16 * 16) := by
    have small := (uint8At bytes 12).toNat_lt
    rw [UInt8.toNat_ofNat']
    congr 1
    omega
  have flags : [uint8At bytes 13] = slice bytes 13 1 := singleton_uint8At (by omega)
  have back : (bytes.take 20).drop 13 = slice bytes 13 1 ++ slice bytes 14 6 := by
    rw [slice_append_slice rfl, List.drop_take, slice]
  simp (disch := omega) only [Header.put, Header.get, nibble, flags, ofUInt16_uint16At,
    ofUInt32_uint32At, slice_append_slice, List.append_assoc, Nat.reduceAdd]
  rw [overwrite, List.take_take, List.length_singleton, back, slice_zero, List.append_assoc]
  rfl

/-- Writing another checksum into a TCP header changes the two bytes that it stands in. -/
theorem TcpHeader.put_checksum (header : TcpHeader) (checksum : UInt16) :
    Header.put { header with checksum := checksum } =
      overwrite (Header.put header) 16 (ofUInt16 checksum) := rfl

/-! ## VXLAN -/

theorem VxlanHeader.get_put (header : VxlanHeader) (rest : Bytes) :
    Header.get (Header.put header ++ rest) =
      { header with vni := UInt32.ofNat (header.vni.toNat % 0x1000000) } := by
  have vni : header.vni.toNat % 16777216 * 256 % 4294967296 / 256 =
      header.vni.toNat % 16777216 := by
    omega
  simp [Header.get, Header.put, vni]

/-- The network identifier stands in the upper three of four bytes. -/
theorem VxlanHeader.put_eq (header : VxlanHeader) :
    Header.put header =
      [header.flags, 0, 0, header.nextProtocol] ++ beBytes 3 (header.vni.toNat % 0x1000000) ++
        [0] := by
  have small : (UInt32.ofNat (header.vni.toNat % 0x1000000 * 256)).toNat =
      header.vni.toNat % 0x1000000 * 256 := by
    rw [UInt32.toNat_ofNat']
    omega
  have low : UInt8.ofNat (header.vni.toNat % 0x1000000 * 256) = 0 := by
    apply UInt8.toNat_inj.1
    rw [UInt8.toNat_ofNat', UInt8.toNat_zero]
    omega
  have upper : ofUInt32 (UInt32.ofNat (header.vni.toNat % 0x1000000 * 256)) =
      beBytes 3 (header.vni.toNat % 0x1000000) ++ [0] := by
    rw [ofUInt32, small, beBytes, low, Nat.mul_div_cancel _ (by omega)]
  simp only [Header.put, upper, List.append_assoc]

/-- The network identifier is read from the upper three of four bytes. -/
theorem VxlanHeader.toNat_vni_get {bytes : Bytes} (fits : 8 ≤ bytes.length) :
    (Header.get bytes : VxlanHeader).vni.toNat = field bytes 4 3 := by
  have window : slice bytes 4 4 = slice bytes 4 3 ++ slice bytes 7 1 := by
    rw [slice_append_slice (by rfl)]
  -- The four bytes hold the identifier and, below it, one that is reserved.
  have word : (uint32At bytes 4).toNat = field bytes 4 3 * 256 + (uint8At bytes 7).toNat := by
    rw [toNat_uint32At fits, field, window, ← singleton_uint8At (by omega),
      beNat_append_singleton, field]
  have low := (uint8At bytes 7).toNat_lt
  have small := (uint32At bytes 4).toNat_lt
  simp only [Header.get, UInt32.toNat_ofNat']
  omega

/-- A header does not keep the three reserved bytes. -/
theorem VxlanHeader.put_get {bytes : Bytes} (fits : 8 ≤ bytes.length) :
    Header.put (Header.get bytes : VxlanHeader) =
      [uint8At bytes 0, 0, 0, uint8At bytes 3] ++ slice bytes 4 3 ++ [0] := by
  have length : (slice bytes 4 3).length = 3 := length_slice (by omega)
  have high : field bytes 4 3 < 0x1000000 := by
    have vni := VxlanHeader.toNat_vni_get fits
    simp only [Header.get, UInt32.toNat_ofNat'] at vni
    have small := (uint32At bytes 4).toNat_lt
    omega
  rw [VxlanHeader.put_eq, VxlanHeader.toNat_vni_get fits, Nat.mod_eq_of_lt high, field,
    beBytes_beNat length]
  rfl

/-! ## Timestamp marker -/

theorem Timestamp.get_put (header : Timestamp) (rest : Bytes) :
    Header.get (Header.put header ++ rest) = header := by
  simp [Header.get, Header.put, Timestamp.mark]

/-- A header does not keep the mark, which is the same in all of them. -/
theorem Timestamp.put_get {bytes : Bytes} (fits : 12 ≤ bytes.length) :
    Header.put (Header.get bytes : Timestamp) = Timestamp.mark ++ slice bytes 4 8 := by
  simp (disch := omega) only [Header.put, Header.get, ofUInt64_uint64At]

end FrameText
