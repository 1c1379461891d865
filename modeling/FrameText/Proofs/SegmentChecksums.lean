import Mathlib.Control.Monad.Basic
import FrameText.Proofs.Unwinding
import FrameText.Proofs.WordSum

/-!
# Checksums in finished frames

Every IP layer in front of the first payload leaves a valid header checksum, and a valid checksum in
the transport layer behind it, however many layers stand around them.

1. `pseudoIPv4` and `pseudoIPv6` are the pseudo-headers as bytes.
2. `SegmentIntact` says that a transport segment and its pseudo-header sum to a multiple of 65535,
   and `Intact` that the checksums of an IP layer are right.
3. `Frame.checksums_of_encode` is the main result.
-/

namespace FrameText

open Bytes Layer

namespace Checksum

/-! ## Pseudo-headers -/

/-- The pseudo-header of a segment behind an IPv4 header with these addresses. -/
def pseudoIPv4 (addresses : Bytes) (protocol : UInt8) (length : Nat) : Bytes :=
  addresses ++ [0, protocol] ++ beBytes 2 length

/-- The pseudo-header of a segment behind an IPv6 header with these addresses. -/
def pseudoIPv6 (addresses : Bytes) (protocol : UInt8) (length : Nat) : Bytes :=
  addresses ++ beBytes 4 length ++ [0, 0, 0, protocol]

/-- Whether the transport segment at `start`, which runs to the end of the data, and its
pseudo-header sum to a multiple of 65535.  A UDP checksum is not zero, which would mean none. -/
def SegmentIntact (data : Bytes) (start : Nat) (follower : Option LayerKind)
    (pseudo : UInt8 → Nat → Bytes) : Prop :=
  (follower = some .udp → start + 8 ≤ data.length →
    wordSum (pseudo 17 (data.length - start) ++ data.drop start) % 65535 = 0 ∧
      field data (start + 6) 2 ≠ 0) ∧
  (follower = some .tcp → start + 20 ≤ data.length →
    wordSum (pseudo 6 (data.length - start) ++ data.drop start) % 65535 = 0)

/-- Whether the IP layer of this kind at `offset` leaves valid checksums: its own, if it is IPv4,
and that of a UDP or TCP layer directly behind it.  Only headers that lie within the data are
meant. -/
def Intact (data : Bytes) (offset : Nat) (kind : LayerKind) (follower : Option LayerKind) : Prop :=
  (kind = .ipv4 →
    (offset + 20 ≤ data.length →
      isValid (slice data offset 20) = true ∧
        field data (offset + 10) 2 = reference (overwrite (slice data offset 20) 10 [0, 0])) ∧
    SegmentIntact data (offset + 20) follower (pseudoIPv4 (slice data (offset + 12) 8))) ∧
  (kind = .ipv6 →
    SegmentIntact data (offset + 40) follower (pseudoIPv6 (slice data (offset + 8) 32)))

variable {segment pseudo : Bytes} {protocol : UInt8}

theorem wordSum_beBytes_four {n : Nat} (small : n < 0x100000000) :
    wordSum (beBytes 4 n) = n / 65536 + n % 65536 := by
  simp only [beBytes, List.nil_append, List.cons_append, wordSum, UInt8.toNat_ofNat']
  omega

theorem wordSum_protocol (protocol : UInt8) : wordSum [0, protocol] = protocol.toNat := by
  rw [wordSum, wordSum, UInt8.toNat_zero]
  omega

/-- The checksum behind an IPv4 header is the complement of the sum with the pseudo-header. -/
theorem overIPv4_eq (source destination : IPv4Address) (small : segment.length < 65536) :
    overIPv4 source destination protocol segment =
      complement
        (wordSum (pseudoIPv4 (source.octets ++ destination.octets) protocol segment.length) +
          wordSum segment) := by
  have sum : wordSum (pseudoIPv4 (source.octets ++ destination.octets) protocol segment.length) =
      wordSum source.octets + wordSum destination.octets + protocol.toNat + segment.length := by
    rw [pseudoIPv4, wordSum_append (by simp), wordSum_append (by simp), wordSum_append (by simp),
      wordSum_protocol, wordSum_beBytes_two small]
  simp only [overIPv4, sumWords_eq, Nat.zero_add, sum, Nat.mod_eq_of_lt small]

/-- The checksum behind an IPv6 header is the complement of the sum with the pseudo-header. -/
theorem overIPv6_eq (source destination : IPv6Address) (small : segment.length < 65536) :
    overIPv6 source destination protocol segment =
      complement
        (wordSum (pseudoIPv6 (source.octets ++ destination.octets) protocol segment.length) +
          wordSum segment) := by
  have tail : wordSum [0, 0, 0, protocol] = protocol.toNat := by
    rw [wordSum, wordSum_protocol, UInt8.toNat_zero]
    omega
  have sum : wordSum (pseudoIPv6 (source.octets ++ destination.octets) protocol segment.length) =
      wordSum source.octets + wordSum destination.octets + segment.length / 65536 +
        segment.length % 65536 + protocol.toNat := by
    rw [pseudoIPv6, wordSum_append (by simp [IPv6Address.length_octets]),
      wordSum_append (by simp [IPv6Address.length_octets]),
      wordSum_append (by simp [IPv6Address.length_octets]), tail, wordSum_beBytes_four (by omega)]
    omega
  simp only [overIPv6, sumWords_eq, Nat.zero_add, sum]

/-! ## Filled-in checksums -/

/-- A segment that carries the checksum over itself and the pseudo-header is intact. -/
theorem wordSum_of_sealed {field : Nat} {wire : UInt16 → UInt16}
    (evenPseudo : pseudo.length % 2 = 0) (even : field % 2 = 0) (fits : field + 2 ≤ segment.length)
    (whole : ∀ sum, (sum + (wire (complement sum)).toNat) % 65535 = 0)
    (filled : segment = overwrite segment field (ofUInt16 (wire (complement
      (wordSum pseudo + wordSum (overwrite segment field [0, 0])))))) :
    wordSum (pseudo ++ segment) % 65535 = 0 := by
  have sum := congrArg wordSum filled
  rw [wordSum_overwrite even fits] at sum
  rw [wordSum_append evenPseudo, sum, ← Nat.add_assoc]
  exact whole _

/-- A header that carries the checksum over itself is valid. -/
theorem isValid_of_sealed {header : Bytes} {offset : Nat} (even : offset % 2 = 0)
    (fits : offset + 2 ≤ header.length)
    (filled : header =
      overwrite header offset (ofUInt16 (ofBytes (overwrite header offset [0, 0])))) :
    isValid header = true ∧
      field header offset 2 = reference (overwrite header offset [0, 0]) := by
  constructor
  · have sum := congrArg wordSum filled
    rw [wordSum_overwrite even fits, ofBytes, sumWords_eq, Nat.zero_add] at sum
    apply isValid_of_mod
    rw [sum]
    exact add_complement_mod _
  · have word : slice header offset 2 = ofUInt16 (ofBytes (overwrite header offset [0, 0])) := by
      rw [filled, slice_overwrite_self (by omega) (length_ofUInt16 _), ← filled]
    rw [field, word, ← toNat_ofBytes]
    exact beNat_beBytes_two (ofBytes _).toNat_lt

end Checksum

open Checksum

namespace Layer

/-! ## Checksums of one layer -/

variable {before after : List Layer} {outer layer : Layer} {frame final : Frame} {offset : Nat}

/-- The checksum that an IP layer fills in makes the segment intact.  The pseudo-header may depend
on the header of the IP layer, so that it has to be known only where that header is in the frame. -/
theorem wordSum_of_build (headers : ∀ layer ∈ before, layer.isPayload = false)
    (outerHeader : outer.isPayload = false) (used : frame.dataLen ≤ frame.capacity)
    (built : build (before ++ outer :: layer :: after) frame = .ok final)
    (start : offset = frame.dataLen + totalLength before + outer.length)
    (small : final.data.length < 65536) {pseudo : Nat → Bytes}
    (even : (pseudo (final.data.length - offset)).length % 2 = 0) {sum : Bytes → UInt16}
    (found : outer.segmentSum? (some layer.kind) = some sum)
    (value : ∀ segment, segment.length < 65536 →
      sum segment = complement (wordSum (pseudo segment.length) + wordSum segment))
    {field : Nat} {wire : UInt16 → UInt16}
    (transport : transportField? (some layer.kind) = some (field, wire)) (evenField : field % 2 = 0)
    (whole : ∀ sum, (sum + (wire (complement sum)).toNat) % 65535 = 0)
    (inside : offset + layer.length ≤ final.data.length) :
    wordSum (pseudo (final.data.length - offset) ++ final.data.drop offset) % 65535 = 0 ∧
      ∃ checksum, Bytes.field final.data (offset + field) 2 = (wire checksum).toNat := by
  have plan : outer.sealing? (some layer.kind) =
      some (field, fun segment => wire (sum segment)) := by
    rw [sealing?, found, transport]
  have room := add_two_le_of_sealing plan
  have bounded : offset + layer.length < Limits.wordBound := by
    rw [Limits.wordBound]
    omega
  -- The finished segment carries the checksum over itself, so that no moment of the run is left.
  have filled := segment_of_build headers outerHeader used built plan start inside bounded
  have segmentLength : (final.data.drop offset).length = final.data.length - offset :=
    List.length_drop
  have clearedLength : (overwrite (final.data.drop offset) field [0, 0]).length =
      final.data.length - offset := by
    rw [length_overwrite (by show field + 2 ≤ _; omega), segmentLength]
  rw [value _ (by omega), clearedLength] at filled
  refine ⟨wordSum_of_sealed even evenField (by omega) whole filled, ?_⟩
  generalize complement _ = checksum at filled
  refine ⟨checksum, ?_⟩
  rw [Bytes.field, ← slice_drop, filled, slice_overwrite_self (by omega) (length_ofUInt16 _)]
  exact beNat_beBytes_two (wire checksum).toNat_lt

/-- An IP layer fills in the checksum of a transport layer behind it. -/
theorem segmentIntact_of_build (headers : ∀ layer ∈ before, layer.isPayload = false)
    (outerHeader : outer.isPayload = false) (used : frame.dataLen ≤ frame.capacity)
    (built : build (before ++ outer :: after) frame = .ok final)
    (start : offset = frame.dataLen + totalLength before + outer.length)
    (small : final.data.length < 65536) {pseudo : UInt8 → Nat → Bytes}
    (even : offset ≤ final.data.length → ∀ protocol length,
      (pseudo protocol length).length % 2 = 0)
    (sums : offset ≤ final.data.length → ∀ next protocol,
      IpProtocol.ofFollower? next = some protocol →
        ∃ sum, outer.segmentSum? next = some sum ∧ ∀ segment, segment.length < 65536 →
          sum segment = complement
            (wordSum (pseudo protocol.toUInt8 segment.length) + wordSum segment)) :
    SegmentIntact final.data offset (firstKind after) pseudo := by
  have split : ∀ {kind}, firstKind after = some kind →
      ∃ layer rest, after = layer :: rest ∧ layer.kind = kind := by
    intro kind first
    cases after with
    | nil => cases first
    | cons layer rest => exact ⟨layer, rest, rfl, Option.some.inj first⟩
  constructor
  · intro first inside
    rcases split first with ⟨layer, rest, rfl, kind⟩
    have length : layer.length = 8 := by
      cases layer with
      | udp _ _ => rfl
      | vlan tag _ => cases tag <;> cases kind
      | _ => cases kind
    rcases sums (by omega) (some .udp) .udp rfl with ⟨sum, found, value⟩
    obtain ⟨intact, checksum, filled⟩ := wordSum_of_build headers outerHeader used built start small
      (even (by omega) 17 _) (by rw [kind]; exact found) value (by rw [kind]; rfl) rfl
      add_wireChecksum_mod (by rw [length]; exact inside)
    refine ⟨intact, ?_⟩
    rw [show UdpHeader.checksumOffset = 6 from rfl] at filled
    rw [filled]
    -- A checksum of zero is written in its other form.
    intro zero
    have none : UdpHeader.wireChecksum checksum = 0 := UInt16.toNat_inj.1 zero
    unfold UdpHeader.wireChecksum at none
    split at none
    · cases none
    · rename_i some
      exact some none
  · intro first inside
    rcases split first with ⟨layer, rest, rfl, kind⟩
    have length : layer.length = 20 := by
      cases layer with
      | tcp _ => rfl
      | vlan tag _ => cases tag <;> cases kind
      | _ => cases kind
    rcases sums (by omega) (some .tcp) .tcp rfl with ⟨sum, found, value⟩
    exact (wordSum_of_build headers outerHeader used built start small (even (by omega) 6 _)
      (by rw [kind]; exact found) value (by rw [kind]; rfl) rfl add_complement_mod
      (by rw [length]; exact inside)).1

/-- An IPv4 layer leaves a valid checksum in its header and behind it. -/
theorem intact_of_build_ipv4 {header : IPv4Header} {protocol : Option IpProtocol}
    (headers : ∀ layer ∈ before, layer.isPayload = false) (used : frame.dataLen ≤ frame.capacity)
    (built : build (before ++ ipv4 header protocol :: after) frame = .ok final)
    (start : offset = frame.dataLen + totalLength before) (small : final.data.length < 65536) :
    (offset + 20 ≤ final.data.length →
      isValid (slice final.data offset 20) = true ∧
        Bytes.field final.data (offset + 10) 2 =
          reference (overwrite (slice final.data offset 20) 10 [0, 0])) ∧
    SegmentIntact final.data (offset + 20) (firstKind after)
      (pseudoIPv4 (slice final.data (offset + 12) 8)) := by
  -- The header is known only where it lies within the frame.
  have stands : offset + 20 ≤ final.data.length → slice final.data offset 20 =
      Header.put (finishIPv4 header protocol (firstKind after) (final.data.length - offset)) :=
    fun inside => slice_of_build headers rfl used built start inside small rfl rfl
  constructor
  · intro inside
    have word : Bytes.field final.data (offset + 10) 2 =
        Bytes.field (slice final.data offset 20) 10 2 := by
      rw [Bytes.field, Bytes.field, slice_slice (by omega)]
    have length : (slice final.data offset 20).length = 20 := length_slice inside
    rw [word]
    rw [stands inside] at length ⊢
    exact isValid_of_sealed rfl (by omega) (IPv4Header.put_withChecksum _)
  · have addresses : offset + 20 ≤ final.data.length →
        slice final.data (offset + 12) 8 = header.source.octets ++ header.destination.octets := by
      intro inside
      rw [← slice_slice (by show 12 + 8 ≤ 20; omega), stands inside]
      exact IPv4Header.slice_addresses _
    refine segmentIntact_of_build headers rfl used built (by rw [start]; rfl) small ?_ ?_
    · intro inside protocol length
      rw [addresses inside, pseudoIPv4]
      simp
    · intro inside next follower plan
      refine ⟨_, rfl, ?_⟩
      intro segment short
      rw [addresses inside, plan, Option.getD_some, overIPv4_eq _ _ short]

/-- An IPv6 layer, which has no checksum of its own, leaves a valid one behind it. -/
theorem intact_of_build_ipv6 {header : IPv6Header} {protocol : Option IpProtocol}
    (headers : ∀ layer ∈ before, layer.isPayload = false) (used : frame.dataLen ≤ frame.capacity)
    (built : build (before ++ ipv6 header protocol :: after) frame = .ok final)
    (start : offset = frame.dataLen + totalLength before) (small : final.data.length < 65536) :
    SegmentIntact final.data (offset + 40) (firstKind after)
      (pseudoIPv6 (slice final.data (offset + 8) 32)) := by
  have addresses : offset + 40 ≤ final.data.length →
      slice final.data (offset + 8) 32 = header.source.octets ++ header.destination.octets := by
    intro inside
    have stands : slice final.data offset 40 = Header.put
        (finishIPv6 header protocol (firstKind after) (final.data.length - offset - 40)) :=
      slice_of_build headers rfl used built start inside small rfl rfl
    rw [← slice_slice (by show 8 + 32 ≤ 40; omega), stands]
    exact IPv6Header.slice_addresses _
  refine segmentIntact_of_build headers rfl used built (by rw [start]; rfl) small ?_ ?_
  · intro inside protocol length
    rw [addresses inside, pseudoIPv6]
    simp [IPv6Address.length_octets]
  · intro inside next follower plan
    refine ⟨_, rfl, ?_⟩
    intro segment short
    rw [addresses inside, plan, Option.getD_some, overIPv6_eq _ _ short]

end Layer

/-! ## Finished frames -/

/-- Every IP layer of an encoded frame that stands in front of the first payload leaves valid
checksums. -/
theorem Frame.checksums_of_encode {config : Config} {frame : Frame}
    (success : (frame.encode config).result = .ok ()) :
    ∃ layers, Layer.ofDescription frame.text = .ok layers ∧
      ∀ before layer after, layers = before ++ layer :: after →
        (∀ outer ∈ before, outer.isPayload = false) →
        Intact (frame.encode config).state.data (totalLength before) layer.kind
          (firstKind after) := by
  rcases Frame.encode_eq_ok.1 ⟨success, rfl⟩ with ⟨layers, spelled, built⟩
  refine ⟨layers, spelled, ?_⟩
  rintro before layer after rfl headers
  have used : frame.reset.dataLen ≤ frame.reset.capacity := Nat.zero_le _
  have start : totalLength before = frame.reset.dataLen + totalLength before :=
    (Nat.zero_add _).symm
  -- No frame is longer than Ethernet allows, so that no length field is too small.
  have small : (frame.encode config).state.data.length < 65536 := by
    have bounds := Limits.clamp_bounds (reach frame.reset.dataLen (before ++ layer :: after))
    rw [length_data_of_build built used, dataLen_of_build built used]
    omega
  constructor
  · intro kind
    cases layer with
    | ipv4 header protocol => exact intact_of_build_ipv4 headers used built start small
    | vlan tag _ => cases tag <;> cases kind
    | _ => cases kind
  · intro kind
    cases layer with
    | ipv6 header protocol => exact intact_of_build_ipv6 headers used built start small
    | vlan tag _ => cases tag <;> cases kind
    | _ => cases kind

/-- A frame that carries a frame: the inner segment lies in the outer one, and both checksums are
right. -/
theorem Frame.checksums_of_tunnel :
    let tunnel :=
      Frame.new "tunnel".toList "Ether()/IPv4()/UDP()/Vxlan()/Ether()/IPv6()/TCP()".toList 124
    (tunnel.encode {}).result = .ok () ∧
      Intact (tunnel.encode {}).state.data 14 .ipv4 (some .udp) ∧
      Intact (tunnel.encode {}).state.data 64 .ipv6 (some .tcp) ∧
      (tunnel.encode {}).state.data.length = 124 := by
  intro tunnel
  have success : (tunnel.encode {}).result = .ok () := by decide +kernel
  have found : ofDescription tunnel.text = .ok [ether {}, ipv4 {} none, udp none none, vxlan {},
      ether {}, ipv6 {} none, tcp {}] := by decide +kernel
  rcases Frame.checksums_of_encode success with ⟨layers, spelled, intact⟩
  obtain rfl := Except.ok.inj (spelled.symm.trans found)
  refine ⟨success, ?_, ?_, by decide +kernel⟩
  · exact intact [ether {}] (ipv4 {} none) _ rfl (by decide)
  · exact intact [ether {}, ipv4 {} none, udp none none, vxlan {}, ether {}] (ipv6 {} none) _ rfl
      (by decide)

end FrameText
