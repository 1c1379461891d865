import FrameText.Proofs.HeaderCodec
import FrameText.Proofs.Walk

/-!
# Stored fields — what the text of a header has to show

1. `LayerKind.storedFields` lists the fields of a header by the places where they stand, and
   `LayerKind.storedLength` gives its length in the same way.
2. `fields_of_finds` and `length_of_finds` say that the headers that dissection finds have these
   fields and these lengths.
-/

namespace FrameText

open Bytes
open Text (decimal hexMarked)

/-! ## By place -/

namespace LayerKind

/-- The fields of a header of this kind at the start of some bytes, in the order in which they are
shown. -/
def storedFields (kind : LayerKind) (bytes : Bytes) : List (Key × Text) :=
  match kind with
  | .ether => [(.dst, (MacAddress.readAt bytes 0).print), (.src, (MacAddress.readAt bytes 6).print)]
  | .dot1q | .dot1ad => [
      (.vlan, decimal (field bytes 0 2 % 4096)),
      (.prio, decimal (field bytes 0 2 / 8192)),
      (.cfi, decimal (field bytes 0 2 / 4096 % 2))]
  | .ipv4 => [
      (.ver, decimal (field bytes 0 1 / 16)),
      (.ihl, decimal (field bytes 0 1 % 16)),
      (.tos, hexMarked 2 (field bytes 1 1)),
      (.len, decimal (field bytes 2 2)),
      (.id, decimal (field bytes 4 2)),
      (.fragoff, hexMarked 4 (field bytes 6 2)),
      (.ttl, decimal (field bytes 8 1)),
      (.cksum, hexMarked 4 (field bytes 10 2)),
      (.dst, (IPv4Address.readAt bytes 16).print),
      (.src, (IPv4Address.readAt bytes 12).print),
      (.proto, (IpProtocol.ofUInt8 (uint8At bytes 9)).print)]
  | .ipv6 => [
      (.vtc, hexMarked 8 (field bytes 0 4)),
      (.len, decimal (field bytes 4 2)),
      (.hops, decimal (field bytes 7 1)),
      (.dst, (IPv6Address.readAt bytes 24).print),
      (.src, (IPv6Address.readAt bytes 8).print),
      (.proto, (IpProtocol.ofUInt8 (uint8At bytes 6)).print)]
  | .udp => [
      (.dport, decimal (field bytes 2 2)),
      (.sport, decimal (field bytes 0 2)),
      (.len, decimal (field bytes 4 2)),
      (.cksum, hexMarked 4 (field bytes 6 2))]
  | .tcp => [
      (.sport, decimal (field bytes 0 2)),
      (.dport, decimal (field bytes 2 2)),
      (.seq, decimal (field bytes 4 4)),
      (.ack, decimal (field bytes 8 4)),
      (.dataOff, decimal (field bytes 12 1 / 16)),
      (.flags, hexMarked 2 (field bytes 13 1)),
      (.win, decimal (field bytes 14 2)),
      (.cksum, hexMarked 4 (field bytes 16 2)),
      (.urp, decimal (field bytes 18 2))]
  | .vxlan => [(.flags, hexMarked 2 (field bytes 0 1)), (.vni, decimal (field bytes 4 3))]
  | .tsc => [(.val, hexMarked 16 (field bytes 4 8))]
  | .echo | .raw | .payload => []

/-- The length of a header of this kind at the start of some bytes.  An IPv4 or TCP header that
claims to be longer than its fixed part has options. -/
def storedLength (kind : LayerKind) (bytes : Bytes) : Nat :=
  match kind with
  | .ether => 14
  | .dot1q | .dot1ad => 4
  | .ipv4 => max 20 (field bytes 0 1 % 16 * 4)
  | .ipv6 => 40
  | .udp => 8
  | .tcp => max 20 (field bytes 12 1 / 16 * 4)
  | .vxlan => 8
  | .tsc => 12
  | .echo | .raw | .payload => 0

end LayerKind

/-! ## As they are found -/

variable {reader : Reader} {bytes : Bytes} {header : FoundHeader}

/-- The length of a header that is found can be told from where it stands. -/
theorem length_of_finds (finds : reader.finds bytes = some header)
    (fits : header.length ≤ bytes.length) : header.length = header.kind.storedLength bytes := by
  cases reader with
  | ipv4 =>
    cases finds
    have fits : 20 ≤ bytes.length := Nat.le_trans (Nat.le_add_right 20 _) fits
    have words : (Header.get bytes : IPv4Header).words = field bytes 0 1 % 16 :=
      congrArg (· % 16) (toNat_uint8At (by omega))
    show 20 + ((Header.get bytes : IPv4Header).words * 4 - 20) = max 20 (field bytes 0 1 % 16 * 4)
    omega
  | tcp =>
    cases finds
    have fits : 20 ≤ bytes.length := Nat.le_trans (Nat.le_add_right 20 _) fits
    have offset := TcpHeader.toNat_dataOffset_get fits
    show 20 + ((Header.get bytes : TcpHeader).dataOffset.toNat * 4 - 20) =
      max 20 (field bytes 12 1 / 16 * 4)
    omega
  | vlan tag =>
    cases finds
    cases tag <;> rfl
  | tsc =>
    by_cases marked : Timestamp.startsAt bytes = true
    · rw [Reader.finds, if_pos marked] at finds
      cases finds
      rfl
    · rw [Reader.finds, if_neg marked] at finds
      cases finds
  | payload => cases finds
  | _ =>
    cases finds
    rfl

theorem fields_of_finds (finds : reader.finds bytes = some header)
    (fits : header.length ≤ bytes.length) : header.fields = header.kind.storedFields bytes := by
  cases reader with
  | ether =>
    cases finds
    rfl
  | vlan tag =>
    cases finds
    have fits : 4 ≤ bytes.length := fits
    have control : (uint16At bytes 0).toNat = field bytes 0 2 := toNat_uint16At (by omega)
    rcases VlanHeader.toNat_ofControl (uint16At bytes 0) (.ofUInt16 (uint16At bytes 2)) with
      ⟨vlanId, priority, dropEligible⟩
    cases tag
    all_goals
      simp only [FoundHeader.fields, FoundHeader.kind, VlanTag.kind, LayerKind.storedFields,
        Header.get, vlanId, priority, dropEligible, control]
  | ipv4 =>
    cases finds
    have fits : 20 ≤ bytes.length := Nat.le_trans (Nat.le_add_right 20 _) fits
    simp (disch := omega) only [FoundHeader.fields, FoundHeader.kind, LayerKind.storedFields,
      Header.get, IPv4Header.version, IPv4Header.words, toNat_uint8At, toNat_uint16At]
  | ipv6 =>
    cases finds
    have fits : 40 ≤ bytes.length := fits
    simp (disch := omega) only [FoundHeader.fields, FoundHeader.kind, LayerKind.storedFields,
      Header.get, toNat_uint8At, toNat_uint16At, toNat_uint32At]
  | udp =>
    cases finds
    have fits : 8 ≤ bytes.length := fits
    simp (disch := omega) only [FoundHeader.fields, FoundHeader.kind, LayerKind.storedFields,
      Header.get, toNat_uint16At]
  | tcp =>
    cases finds
    have fits : 20 ≤ bytes.length := Nat.le_trans (Nat.le_add_right 20 _) fits
    have offset := TcpHeader.toNat_dataOffset_get fits
    simp only [FoundHeader.fields, FoundHeader.kind, LayerKind.storedFields, offset]
    simp (disch := omega) only [Header.get, toNat_uint8At, toNat_uint16At, toNat_uint32At]
  | vxlan =>
    cases finds
    have fits : 8 ≤ bytes.length := fits
    have flags : (uint8At bytes 0).toNat = field bytes 0 1 := toNat_uint8At (by omega)
    simp only [FoundHeader.fields, FoundHeader.kind, LayerKind.storedFields,
      VxlanHeader.toNat_vni_get fits]
    simp only [Header.get, flags]
  | tsc =>
    by_cases marked : Timestamp.startsAt bytes = true
    · rw [Reader.finds, if_pos marked] at finds
      cases finds
      have fits : 12 ≤ bytes.length := fits
      simp (disch := omega) only [FoundHeader.fields, FoundHeader.kind, LayerKind.storedFields,
        Header.get, toNat_uint64At]
    · rw [Reader.finds, if_neg marked] at finds
      cases finds
  | payload => cases finds

end FrameText
