import FrameText.Proofs.Acceptance
import FrameText.Proofs.RoundTrip

/-!
# Normalisation — captured frames that are encoded again

A captured frame may carry any lengths, checksums and types.  Its text shows some of its fields only,
and the encoder derives the others; what it derives must not change how the frame is taken apart.

1. `Normalises` says of one header that its place is taken by one with the same description that leads
   to the same reader; `normalises_of_stands` shows it for the headers of every kind.
2. `ofDatagram_of_stands` is about the one reader that is chosen by the bytes behind a header.
3. `exists_walk_of_stands` carries both along a walk, `exists_walk_of_build` to the frame that is
   built.
4. `Frame.normalised_of_encode` says that one pass reaches a fixpoint.
-/

namespace FrameText

open Bytes Layer

/-! ## Definitions -/

/-- A header without options. -/
def FoundHeader.Plain : FoundHeader → Prop
  | ipv4 header => header.words ≤ 5
  | tcp header => header.dataOffset.toNat ≤ 5
  | _ => True

instance (header : FoundHeader) : Decidable header.Plain :=
  match header with
  | .ipv4 _ => inferInstanceAs (Decidable (_ ≤ _))
  | .tcp _ => inferInstanceAs (Decidable (_ ≤ _))
  | .ether _ | .vlan _ _ | .ipv6 _ | .udp _ | .vxlan _ | .tsc _ => inferInstanceAs (Decidable True)

/-- Whether a reader finds a header in new bytes that has the same description as the one that it
found in old bytes, and that leads to the same reader.  What VXLAN needs to be known about the bytes
behind a UDP header is left open. -/
def Normalises (reader : Reader) (header : FoundHeader) (rest found : Bytes) : Prop :=
  ∃ again, reader.finds found = some again ∧ again.toLayer = header.toLayer ∧
    ∀ behind, (∀ datagram, header = .udp datagram →
        Reader.ofDatagram datagram behind = Reader.ofDatagram datagram rest) →
      Reader.behind again behind = Reader.behind header rest

theorem FoundHeader.length_of_plain {header : FoundHeader} (plain : header.Plain) :
    header.length = header.toLayer.length := by
  cases header with
  | ipv4 header =>
    have none : header.optionsLength = 0 := by
      have words : header.words ≤ 5 := plain
      rw [IPv4Header.optionsLength, IPv4Header.headerLength]
      show header.words * 4 - 20 = 0
      omega
    rw [FoundHeader.length, none]
    rfl
  | tcp header =>
    have none : header.optionsLength = 0 := by
      have words : header.dataOffset.toNat ≤ 5 := plain
      show header.dataOffset.toNat * 4 - 20 = 0
      omega
    rw [FoundHeader.length, none]
    rfl
  | _ => rfl

/-! ## Readers -/

section Readers

variable {next : Option LayerKind}

/-- The type that the encoder writes leads to the same reader, even where the type itself is
replaced. -/
theorem ofEtherType_of_announces {type : EtherType} {fallback : UInt16}
    (unregistered : EtherType.ofUInt16 fallback = .custom fallback)
    (announced : (Reader.ofEtherType type).Announces next) :
    Reader.ofEtherType
        (.ofUInt16 ((EtherType.ofFollower? next).getD (.custom fallback)).toUInt16) =
      Reader.ofEtherType type := by
  cases type with
  | custom value =>
    have nothing : EtherType.ofFollower? next = none := by
      rcases announced with rfl | rfl <;> rfl
    rw [nothing, Option.getD_none, EtherType.toUInt16, unregistered]
    rfl
  | _ =>
    rw [announced]
    rfl

/-- The protocol number that the encoder writes is the one that was read. -/
theorem protocol_of_announces {protocol : IpProtocol}
    (known : IpProtocol.ofUInt8 protocol.toUInt8 = protocol)
    (announced : (Reader.ofProtocol protocol).Announces next) :
    IpProtocol.ofUInt8
        ((IpProtocol.ofFollower? next).getD (.ofUInt8 protocol.toUInt8)).toUInt8 = protocol := by
  rw [protocolNumber_of_announces announced, known]

/-- What VXLAN headers say about the bytes behind them stays the same. -/
theorem ofVxlan_of_announces {header : VxlanHeader} (flags : UInt8) (vni : UInt32)
    (announced : (Reader.ofVxlan header).Announces next) :
    Reader.ofVxlan
        { flags := flags
          nextProtocol := if next = some LayerKind.ether then VxlanHeader.nextEthernet else 0
          vni := vni } =
      Reader.ofVxlan header := by
  unfold Reader.ofVxlan at announced ⊢
  by_cases ethernet : header.nextProtocol = VxlanHeader.nextEthernet
  · rw [if_pos ethernet] at announced
    have follows : next = some LayerKind.ether := announced
    simp only [if_pos follows, if_pos ethernet, if_true]
  · rw [if_neg ethernet] at announced
    have other : next ≠ some LayerKind.ether := by
      rcases announced with rfl | rfl <;> decide
    simp only [if_neg other, if_neg ethernet]
    rfl

/-- A marker that was written opens with its mark. -/
theorem Timestamp.mark_of_written {marker : Timestamp} {found : Bytes}
    (written : found.take 12 = Header.put marker) : Timestamp.mark <+: found := by
  have front : Timestamp.mark <+: found.take 12 := by
    rw [written]
    exact List.prefix_append _ _
  exact front.trans (List.take_prefix _ _)

end Readers

/-! ## One header -/

section Header

variable {reader : Reader} {header : FoundHeader} {segment rest found : Bytes}
  {outer : Option FoundHeader} {front : Option Layer} {next : Option LayerKind}

/-- A header that was written over an old one with the same description leads to the same reader. -/
theorem normalises_of_stands (finds : reader.finds segment = some header)
    (announced : (Reader.behind header rest).Announces next)
    (covers : reader = .udp ∨ reader = .tcp → Covers outer front)
    (fits : header.toLayer.length ≤ found.length)
    (written : found.take header.toLayer.length =
      sealHeader (front.bind fun front => front.sealing? (some header.toLayer.kind)) found
        (header.toLayer.bytes next found.length)) :
    Normalises reader header rest found := by
  cases reader with
  | ether =>
    cases finds
    rw [sealing_eq_none rfl] at written
    have again := get_ether written
    refine ⟨_, rfl, by rw [again]; rfl, fun behind _ => ?_⟩
    rw [again]
    exact ofEtherType_of_announces rfl announced
  | vlan tag =>
    cases finds
    rw [sealing_eq_none (by cases tag <;> rfl)] at written
    have again := get_vlan written
    refine ⟨_, rfl, ?_, fun behind _ => ?_⟩
    · -- Fields that are cut to their widths twice are cut once.
      rw [again]
      simp [FoundHeader.toLayer, VlanHeader.cut, VlanHeader.ofFields]
    · rw [again]
      exact ofEtherType_of_announces rfl announced
  | ipv4 =>
    cases finds
    rw [sealing_eq_none rfl] at written
    have again := get_ipv4 written
    -- A transport layer announces its own number, and any other number is one that was shown.
    have protocol : (Header.get found : IPv4Header).protocol =
        (Header.get segment : IPv4Header).protocol := by
      rw [again]
      exact protocol_of_announces
        (congrArg IpProtocol.ofUInt8 (IpProtocol.toUInt8_ofUInt8 _)) announced
    refine ⟨_, rfl, ?_, fun behind _ => congrArg Reader.ofProtocol protocol⟩
    simp only [FoundHeader.toLayer, protocol]
    rw [again]
    rfl
  | ipv6 =>
    cases finds
    rw [sealing_eq_none rfl] at written
    have again := get_ipv6 written
    have protocol : (Header.get found : IPv6Header).nextHeader =
        (Header.get segment : IPv6Header).nextHeader := by
      rw [again]
      exact protocol_of_announces
        (congrArg IpProtocol.ofUInt8 (IpProtocol.toUInt8_ofUInt8 _)) announced
    refine ⟨_, rfl, ?_, fun behind _ => congrArg Reader.ofProtocol protocol⟩
    simp only [FoundHeader.toLayer, protocol]
    rw [again]
    rfl
  | udp =>
    cases finds
    rw [FoundHeader.kind_toLayer, FoundHeader.kind, sealing_udp (covers (.inl rfl))] at written
    have again := get_udp written
    -- Both ports are shown, so that only the bytes behind the header could tell a difference.
    refine ⟨_, rfl, by rw [again]; rfl, fun behind sniffs => ?_⟩
    refine Eq.trans ?_ (sniffs _ rfl)
    rw [again]
    rfl
  | tcp =>
    cases finds
    rw [FoundHeader.kind_toLayer, FoundHeader.kind, sealing_tcp (covers (.inr rfl))] at written
    -- The header length is not shown, but no reader depends on it.
    have checked := written.trans (TcpHeader.put_checksum _ _).symm
    have again := (get_of_take checked).trans (TcpHeader.get_put _ _)
    exact ⟨_, rfl, by rw [again]; rfl, fun behind _ => rfl⟩
  | vxlan =>
    cases finds
    rw [sealing_eq_none rfl] at written
    have again := get_vxlan written
    refine ⟨_, rfl, ?_, fun behind _ => ?_⟩
    · rw [again]
      simp [FoundHeader.toLayer, VxlanHeader.ofVni]
    · rw [again]
      exact ofVxlan_of_announces _ _ announced
  | tsc =>
    by_cases marked : Timestamp.startsAt segment = true
    · rw [Reader.finds, if_pos marked] at finds
      cases finds
      rw [sealing_eq_none rfl] at written
      have again := (get_of_take written).trans (Timestamp.get_put _ _)
      -- A marker is written with its mark, by which it is found again.
      have marks : Timestamp.startsAt found = true :=
        Bool.and_eq_true_iff.2
          ⟨decide_eq_true fits, List.isPrefixOf_iff_prefix.2 (Timestamp.mark_of_written written)⟩
      exact ⟨_, if_pos marks, by rw [again], fun behind _ => rfl⟩
    · rw [Reader.finds, if_neg marked] at finds
      cases finds
  | payload => cases finds

end Header

/-! ## Whole walks -/

section Walks

variable {reader : Reader} {segment rest found : Bytes} {headers : List FoundHeader}
  {outer : Option FoundHeader} {front : Option Layer} {length : Nat}

/-- What is found behind a UDP header is a VXLAN header again, or none again. -/
theorem ofDatagram_of_stands {datagram : UdpHeader}
    (walk : Walk (.ofDatagram datagram segment) segment headers rest)
    (same : found.length = segment.length)
    (stands : Stands front (decodedLayers headers length rest) found) :
    Reader.ofDatagram datagram found = Reader.ofDatagram datagram segment := by
  by_cases tunnel : datagram.destinationPort = Limits.vxlanPort ∧
      Header.size VxlanHeader ≤ segment.length ∧ uint8At segment 0 &&& VxlanHeader.validFlag ≠ 0
  · -- The VXLAN header that was found is written with its flag set.
    rw [Reader.ofDatagram, if_pos tunnel] at walk
    cases walk with
    | stop nothing => cases nothing
    | step finds fits walk =>
      cases finds
      have written := (stands rfl).1 (Nat.zero_lt_succ 7) (by rw [same]; exact fits)
      rw [sealing_eq_none rfl] at written
      have flags : uint8At found 0 = 0x08 :=
        congrArg VxlanHeader.flags (get_vxlan written)
      have again : datagram.destinationPort = Limits.vxlanPort ∧
          Header.size VxlanHeader ≤ found.length ∧
            uint8At found 0 &&& VxlanHeader.validFlag ≠ 0 := by
        rw [same, flags]
        exact ⟨tunnel.1, tunnel.2.1, by decide⟩
      rw [Reader.ofDatagram, Reader.ofDatagram, if_pos tunnel, if_pos again]
  · -- The first byte is that of the same marker, or of the same unknown bytes.
    rw [Reader.ofDatagram, if_neg tunnel] at walk
    have first : uint8At found 0 = uint8At segment 0 := by
      cases walk with
      | stop nothing => rw [eq_of_stands_closing stands same]
      | step finds fits walk =>
        by_cases marked : Timestamp.startsAt segment = true
        · rw [Reader.finds, if_pos marked] at finds
          cases finds
          have written := (stands rfl).1 (Nat.zero_lt_succ 11) (by rw [same]; exact fits)
          rw [sealing_eq_none rfl] at written
          obtain ⟨later, rfl⟩ := Timestamp.mark_of_written written
          obtain ⟨behind, rfl⟩ := List.isPrefixOf_iff_prefix.1 (Bool.and_eq_true_iff.1 marked).2
          rfl
        · rw [Reader.finds, if_neg marked] at finds
          cases finds
    rw [Reader.ofDatagram, Reader.ofDatagram, same, first]

/-- Where the layers that describe a frame stand in other bytes of the same length, the same kinds of
headers are found there, with the same description. -/
theorem exists_walk_of_stands (walk : Walk reader segment headers rest)
    (small : segment.length < 65536) (covers : reader = .udp ∨ reader = .tcp → Covers outer front)
    (plain : ∀ header ∈ headers, header.Plain) (same : found.length = segment.length)
    (stands : Stands front (decodedLayers headers length rest) found) :
    ∃ again, Walk reader found again rest ∧
      again.map FoundHeader.toLayer = headers.map FoundHeader.toLayer := by
  induction walk generalizing outer front found with
  | stop nothing =>
    rw [eq_of_stands_closing stands same]
    exact ⟨[], .stop nothing, rfl⟩
  | @step reader data header headers rest finds fits walk ih =>
    obtain ⟨written, behind⟩ := stands header.isPayload_toLayer
    have width := FoundHeader.length_of_plain (plain header List.mem_cons_self)
    have positive : 0 < header.toLayer.length := width ▸ header.length_pos
    have room : header.toLayer.length ≤ found.length := by
      rw [same, ← width]
      exact fits
    have bytes := written positive room
    obtain ⟨first, finds', described, leads⟩ :=
      normalises_of_stands finds (announces_of_walk length walk) covers room bytes
    -- The new header has no options either, so that both have the same bytes behind them.
    have placed : Written reader first header.toLayer front _ found :=
      ⟨finds', by rw [← described, FoundHeader.kind_toLayer], header.unset_toLayer, bytes⟩
    have length : first.length = header.length := by
      rw [length_of_written placed (by rw [same]; exact small) covers, described, width]
    have short : (found.drop header.length).length = (data.drop header.length).length := by
      rw [List.length_drop, List.length_drop, same]
    rw [← width] at behind
    obtain ⟨later, walk', descriptions⟩ := ih (by rw [List.length_drop]; omega) covers_toLayer
      (fun header member => plain header (List.mem_cons_of_mem _ member)) short behind
    have reads : Reader.behind first (found.drop header.length) =
        Reader.behind header (data.drop header.length) := by
      refine leads _ ?_
      rintro datagram rfl
      exact ofDatagram_of_stands walk short behind
    refine ⟨first :: later, .step finds' (by rw [length, same]; exact fits) ?_, ?_⟩
    · rw [length, reads]
      exact walk'
    · rw [List.map_cons, List.map_cons, described, descriptions]

end Walks

/-! ## The second pass -/

/-- A description that is encoded does not have too many layers. -/
theorem Frame.few_of_encode {config : Config} {frame : Frame}
    (success : (frame.encode config).result = .ok ()) : (layerTexts frame.text).length ≤ 31 := by
  refine Nat.le_of_not_lt fun many => ?_
  rw [Frame.encode_of_many many] at success
  cases success

/-- A frame that is built from the headers of captured data has the length of that data, the same
description, and headers that all carry derived values. -/
theorem exists_walk_of_build {data rest : Bytes} {headers : List FoundHeader} {frame final : Frame}
    (walk : Walk .ether data headers rest) (least : 60 ≤ data.length) (most : data.length ≤ 1514)
    (plain : ∀ header ∈ headers, header.Plain) (empty : frame.dataLen = 0)
    (built : build (decodedLayers headers data.length rest) frame = .ok final) :
    final.data.length = data.length ∧ ∃ found, Walk .ether final.data found rest ∧
      decodedLayers found data.length rest = decodedLayers headers data.length rest ∧
      Consistent none found final.data := by
  have used : frame.dataLen ≤ frame.capacity := by
    rw [empty]
    exact Nat.zero_le _
  have covers : Reader.ether = .udp ∨ Reader.ether = .tcp → Covers none none := by simp
  have length : final.data.length = data.length := by
    rw [length_data_of_build built used, dataLen_of_build built used,
      reach_decodedLayers least most, Limits.clamp_eq_self least most]
  have grows : NeverCuts 0 (decodedLayers headers data.length rest) :=
    neverCuts_decodedLayers walk least most (Nat.le_of_eq (Nat.zero_add _))
  have stands := stands_of_build built empty grows
  have buildable := (exists_build_iff used).1 ⟨final, built⟩
  obtain ⟨found, again, descriptions⟩ :=
    exists_walk_of_stands walk (by omega) covers plain length stands
  have layers : decodedLayers found data.length rest = decodedLayers headers data.length rest := by
    rw [decodedLayers, descriptions, decodedLayers]
  -- The same layers stand in the frame when they are taken for those of the new headers.
  rw [← layers] at stands buildable
  exact ⟨length, found, again, layers,
    consistent_of_stands again (by omega) covers buildable stands⟩

/-- Encoding the text of captured data without options keeps the length of the data and the kinds of
its layers, and encoding the text of what comes out changes nothing more. -/
theorem Frame.normalised_of_encode {context : DecodeContext} {config : Config} {frame : Frame}
    {data : Bytes} {text : Text} (least : 60 ≤ data.length) (most : data.length ≤ 1514)
    (decoded : (context.decode data .ether).1 = .ok text)
    (plain : ∀ header ∈ (Dissection.ofBytes .ether data).headers, header.Plain)
    (described : frame.text = text) (success : (frame.encode config).result = .ok ()) :
    (frame.encode config).state.data.length = data.length ∧
      ∃ again, (∀ context : DecodeContext,
          (context.decode (frame.encode config).state.data .ether).1 = .ok again) ∧
        layerKinds again = layerKinds text ∧
        ∀ (other : Config) (copy : Frame), copy.text = again → 1514 ≤ copy.capacity →
          (copy.encode other).result = .ok () ∧
            (copy.encode other).state.data = (frame.encode config).state.data := by
  obtain ⟨headers, rest, walk, rfl⟩ : ∃ headers rest, Walk .ether data headers rest ∧
      text = decodedText headers data.length rest := walk_of_decode decoded
  rw [Dissection.ofBytes_eq_ok.2 walk] at plain
  have few := Frame.few_of_encode success
  rw [described] at few
  have small : data.length + 4 < Limits.wordBound := by
    rw [Limits.wordBound]
    omega
  -- The layers that were encoded are those that the text of the data shows.
  obtain ⟨layers, spelled, built⟩ := Frame.encode_eq_ok.1 ⟨success, rfl⟩
  have bounded := length_of_ofDescription spelled
  rw [described, ofDescription_decodedText small few] at spelled
  cases spelled
  generalize (frame.encode config).state = final at built
  obtain ⟨length, found, again, same, consistent⟩ :=
    exists_walk_of_build walk least most plain rfl built
  have kinds : layerKinds (decodedText found final.data.length rest) =
      layerKinds (decodedText headers data.length rest) := by
    rw [length, layerKinds_decodedText small, layerKinds_decodedText small, same]
  have fewAgain : (layerTexts (decodedText found final.data.length rest)).length ≤ 31 := by
    have count := congrArg List.length kinds
    rw [layerKinds, layerKinds, List.length_map, List.length_map] at count
    rw [count]
    exact few
  -- The text is shorter than what dissection may write: 4 · 1514 + 60 · 31 + 90 < 8192.
  have headersFew : found.length ≤ 31 := by
    rw [← same, decodedLayers, List.length_append, List.length_map] at bounded
    omega
  have short := length_decodedText_le again (Nat.le_trans (Nat.le_of_eq length) most)
  have nonempty : final.data ≠ [] := List.ne_nil_of_length_pos (by omega)
  refine ⟨length, _, fun context => decode_of_walk nonempty again (by omega), kinds, ?_⟩
  intro other copy copied large
  exact (encode_decodedText_iff again (by omega) (by omega) fewAgain copied large).2 consistent

/-- A captured datagram with the port of VXLAN but a timestamp marker behind it, whose lengths and
checksums are all wrong. -/
theorem Frame.normalised_of_encode_datagram :
    let data : Bytes :=
      [0xFF, 0xFF, 0xFF, 0xFF, 0xFF, 0xFF, 0, 0, 0, 0, 0, 0, 0x08, 0x00,
        0x43, 7, 0xFF, 0xFF, 0, 1, 0x40, 0, 64, 17, 0xDE, 0xAD, 192, 10, 0, 1, 192, 10, 0, 2,
        0x04, 0xD2, 0x12, 0xB5, 0, 3, 0xBE, 0xEF, 0x74, 0x73, 0x63, 0x3D, 0, 0, 0, 0, 0, 0, 0, 9,
        0x2F, 0x2F, 0x3A, 0x3D, 0, 0xFF]
    ∃ text again, (DecodeContext.decode {} data .ether).1 = .ok text ∧
      ((Frame.new [] text 1514).encode {}).state.data.length = 60 ∧
      ((Frame.new [] text 1514).encode {}).state.data ≠ data ∧
      (DecodeContext.decode {} ((Frame.new [] text 1514).encode {}).state.data .ether).1 =
        .ok again ∧
      ((Frame.new [] again 1514).encode {}).state.data =
        ((Frame.new [] text 1514).encode {}).state.data := by
  intro data
  let text : Text :=
    "Ether(dst=FF:FF:FF:FF:FF:FF,src=00:00:00:00:00:00)/".toList ++
      "IPv4(ver=4,ihl=3,tos=0x07,len=65535,id=1,fragoff=0x4000,ttl=64,cksum=0xdead,".toList ++
      "dst=192.10.0.2,src=192.10.0.1,proto=udp)/".toList ++
      "UDP(dport=4789,sport=1234,len=3,cksum=0xbeef)/TSC(val=0x0000000000000009)/".toList ++
      "Raw('\\x2f\\x2f\\x3a=\\x00\\xff')/Payload(len=64)".toList
  have decoded : (DecodeContext.decode {} data .ether).1 = .ok text := by decide +kernel
  have plain : ∀ header ∈ (Dissection.ofBytes .ether data).headers, header.Plain := by
    decide +kernel
  have run : ((Frame.new [] text 1514).encode {}).result = .ok () ∧
      ((Frame.new [] text 1514).encode {}).state.data ≠ data := by decide +kernel
  have least : 60 ≤ data.length := by decide +kernel
  have most : data.length ≤ 1514 := by decide +kernel
  obtain ⟨length, again, shown, -, fixed⟩ :=
    Frame.normalised_of_encode least most decoded plain rfl run.1
  have room : 1514 ≤ (Frame.new [] again 1514).capacity := Nat.le_of_eq List.length_replicate.symm
  exact ⟨text, again, decoded, length, run.2, shown {}, (fixed {} _ rfl room).2⟩

end FrameText
