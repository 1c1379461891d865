import FrameText.Proofs.DerivedFields
import FrameText.Proofs.Refusals
import FrameText.Proofs.Standing

/-!
# Regeneration — the headers of a walk as the layers of a frame

Joins the headers that dissection finds with the layers that stand in a frame.

1. `Covers` says that a layer takes transport checksums over the same pseudo-header as the header in
   its place.
2. `Written` says that a layer was written where a header is found; `derived_of_written` and
   `written_of_derived` are the two directions for one header of any kind.
3. `consistent_of_stands` and `eq_of_stands` are the two directions for a whole walk.
-/

namespace FrameText

open Bytes Layer

/-! ## Checksums of the header in front -/

/-- Whether a layer takes transport checksums over the same pseudo-header as a header does. -/
def Covers (outer : Option FoundHeader) (front : Option Layer) : Prop :=
  ∀ next protocol, IpProtocol.ofFollower? next = some protocol →
    (front.bind fun layer => layer.segmentSum? next) =
      some (transportChecksum outer protocol.toUInt8)

section Covers

variable {outer : Option FoundHeader} {front : Option Layer}

theorem covers_ipv4 {found header : IPv4Header} (protocol : Option IpProtocol)
    (source : found.source = header.source) (destination : found.destination = header.destination) :
    Covers (some (.ipv4 found)) (some (.ipv4 header protocol)) := by
  intro next transport follows
  rw [Option.bind_some, segmentSum?, follows, ← source, ← destination]
  rfl

theorem covers_ipv6 {found header : IPv6Header} (protocol : Option IpProtocol)
    (source : found.source = header.source) (destination : found.destination = header.destination) :
    Covers (some (.ipv6 found)) (some (.ipv6 header protocol)) := by
  intro next transport follows
  rw [Option.bind_some, segmentSum?, follows, ← source, ← destination]
  rfl

theorem sealing_udp (covers : Covers outer front) :
    (front.bind fun layer => layer.sealing? (some .udp)) =
      some (6, fun segment => UdpHeader.wireChecksum (transportChecksum outer 17 segment)) := by
  rcases Option.bind_eq_some_iff.1 (covers (some .udp) .udp rfl) with ⟨layer, rfl, sum⟩
  rw [Option.bind_some, sealing?, sum]
  rfl

theorem sealing_tcp (covers : Covers outer front) :
    (front.bind fun layer => layer.sealing? (some .tcp)) =
      some (16, fun segment => transportChecksum outer 6 segment) := by
  rcases Option.bind_eq_some_iff.1 (covers (some .tcp) .tcp rfl) with ⟨layer, rfl, sum⟩
  rw [Option.bind_some, sealing?, sum]
  rfl

end Covers

/-! ## One header -/

@[simp] theorem FoundHeader.kind_toLayer (header : FoundHeader) :
    header.toLayer.kind = header.kind := by
  cases header <;> rfl

theorem FoundHeader.isPayload_toLayer (header : FoundHeader) :
    header.toLayer.isPayload = false := by
  cases header <;> rfl

/-- A header takes at least the room of its layer, and more if it has options. -/
theorem FoundHeader.length_toLayer_le (header : FoundHeader) :
    header.toLayer.length ≤ header.length := by
  cases header with
  | ipv4 _ | tcp _ => exact Nat.le_add_right 20 _
  | _ => exact Nat.le_refl _

variable {reader : Reader} {header : FoundHeader} {segment : Bytes}
  {outer : Option FoundHeader} {front : Option Layer} {next behind : Option LayerKind}

/-- Every kind of header is found by one reader only. -/
theorem Reader.eq_of_finds (finds : reader.finds segment = some header) :
    reader = .ofKind header.kind := by
  cases reader with
  | tsc =>
    by_cases marked : Timestamp.startsAt segment = true
    · rw [Reader.finds, if_pos marked] at finds
      cases finds
      rfl
    · rw [Reader.finds, if_neg marked] at finds
      cases finds
  | payload => cases finds
  | vlan tag =>
    cases finds
    cases tag <;> rfl
  | _ =>
    cases finds
    rfl

/-- A header without unusual fields has no options. -/
theorem length_of_derived {behind : Option LayerKind} (finds : reader.finds segment = some header)
    (derived : Derived outer header behind segment) : header.length = header.toLayer.length := by
  cases header with
  | ipv4 found =>
    -- A header length of five words leaves no room for options.
    have plain : found.optionsLength = 0 := by
      rw [IPv4Header.optionsLength, IPv4Header.headerLength, IPv4Header.words, derived.1]
      rfl
    rw [FoundHeader.length, plain]
    rfl
  | tcp found =>
    have same : found = Header.get segment := by
      cases Reader.eq_of_finds finds
      cases finds
      rfl
    have plain : found.optionsLength = 0 := by
      have offset : found.dataOffset = UInt8.ofNat ((uint8At segment 12).toNat / 16) := by
        rw [same]
        rfl
      rw [TcpHeader.optionsLength, offset, derived.1]
      rfl
    rw [FoundHeader.length, plain]
    rfl
  | _ => rfl

/-- Whether a reader finds a header where a layer of its kind was written, in front of a layer of
the kind `next`.  The bytes of the header and all behind them are the segment. -/
structure Written (reader : Reader) (header : FoundHeader) (layer : Layer) (front : Option Layer)
    (next : Option LayerKind) (segment : Bytes) : Prop where
  finds : reader.finds segment = some header
  kind : header.kind = layer.kind
  unset : layer.Unset
  bytes : segment.take layer.length =
    sealHeader (front.bind fun front => front.sealing? (some layer.kind)) segment
      (layer.bytes next segment.length)

/-- A layer that was written in the place of a header leaves the header with derived fields. -/
theorem derived_of_written {layer : Layer} (placed : Written reader header layer front next segment)
    (small : segment.length < 65536) (covers : reader = .udp ∨ reader = .tcp → Covers outer front)
    (single : layer.repeated? behind = none) : Derived outer header behind segment := by
  rcases placed with ⟨finds, kind, unset, written⟩
  obtain rfl := Reader.eq_of_finds finds
  rw [kind] at finds covers
  cases layer with
  | ether header =>
    cases finds
    rw [sealing_eq_none rfl] at written
    exact derived_ether written
  | vlan tag header =>
    have distinct : behind ≠ some tag.kind := by
      intro same
      rw [repeated?, if_pos same] at single
      cases single
    cases tag with
    | customer =>
      cases finds
      rw [sealing_eq_none rfl] at written
      exact ⟨derived_vlan written, distinct⟩
    | service =>
      cases finds
      rw [sealing_eq_none rfl] at written
      exact ⟨derived_vlan written, distinct⟩
  | ipv4 header protocol =>
    cases finds
    rw [sealing_eq_none rfl] at written
    exact derived_ipv4 unset small written
  | ipv6 header protocol =>
    cases finds
    rw [sealing_eq_none rfl] at written
    exact derived_ipv6 unset small written
  | udp source destination =>
    cases finds
    have sealing := sealing_udp (covers (.inl rfl))
    rw [Layer.kind, sealing] at written
    exact derived_udp small written
  | tcp header =>
    cases finds
    have sealing := sealing_tcp (covers (.inr rfl))
    rw [Layer.kind, sealing] at written
    exact derived_tcp unset written
  | vxlan header =>
    cases finds
    rw [sealing_eq_none rfl] at written
    exact derived_vxlan unset written
  | tsc marker =>
    cases header with
    | tsc _ => trivial
    | vlan tag _ => cases tag <;> cases kind
    | _ => cases kind
  | echo => cases finds
  | raw bytes => cases finds
  | payload size fill => cases finds

/-- A header with derived fields has the bytes of its layer. -/
theorem written_of_derived (finds : reader.finds segment = some header)
    (fits : header.length ≤ segment.length) (small : segment.length < 65536)
    (covers : reader = .udp ∨ reader = .tcp → Covers outer front)
    (derived : Derived outer header behind segment)
    (announced : (Reader.behind header (segment.drop header.length)).Announces next) :
    segment.take header.toLayer.length =
      sealHeader (front.bind fun front => front.sealing? (some header.toLayer.kind)) segment
        (header.toLayer.bytes next segment.length) := by
  have room : header.toLayer.length ≤ segment.length :=
    Nat.le_trans header.length_toLayer_le fits
  cases reader with
  | ether =>
    cases finds
    rw [sealing_eq_none rfl]
    exact written_ether room derived announced
  | vlan tag =>
    cases finds
    rw [sealing_eq_none (by cases tag <;> rfl)]
    exact written_vlan room derived.1 announced
  | ipv4 =>
    cases finds
    rw [sealing_eq_none rfl]
    exact written_ipv4 room small derived announced
  | ipv6 =>
    cases finds
    rw [sealing_eq_none rfl]
    exact written_ipv6 room small derived announced
  | udp =>
    cases finds
    rw [FoundHeader.kind_toLayer, FoundHeader.kind, sealing_udp (covers (.inl rfl))]
    exact written_udp room small derived
  | tcp =>
    cases finds
    rw [FoundHeader.kind_toLayer, FoundHeader.kind, sealing_tcp (covers (.inr rfl))]
    exact written_tcp room derived
  | vxlan =>
    cases finds
    rw [sealing_eq_none rfl]
    exact written_vxlan room derived announced
  | tsc =>
    by_cases marked : Timestamp.startsAt segment = true
    · rw [Reader.finds, if_pos marked] at finds
      cases finds
      rw [sealing_eq_none rfl]
      exact written_tsc room marked
    · rw [Reader.finds, if_neg marked] at finds
      cases finds
  | payload => cases finds

/-! ## Whole walks -/

/-- The layers that describe what stands behind the last header of a frame of this length. -/
def closingLayers (length : Nat) (rest : Bytes) : List Layer :=
  if rest = [] then
    [.payload (.wire (length + Limits.checkLength)) Limits.fillByte]
  else
    [.raw rest, .payload (.wire (length + Limits.checkLength)) Limits.fillByte]

/-- The layers that describe a dissected frame of this length. -/
def decodedLayers (headers : List FoundHeader) (length : Nat) (rest : Bytes) : List Layer :=
  headers.map FoundHeader.toLayer ++ closingLayers length rest

variable {headers : List FoundHeader} {rest : Bytes} {length : Nat}

/-- Behind the headers, no layer has a reader of its own. -/
theorem firstKind_closingLayers (length : Nat) (rest : Bytes) :
    firstKind (closingLayers length rest) = some .raw ∨
      firstKind (closingLayers length rest) = some .payload := by
  unfold closingLayers
  split
  · exact .inr rfl
  · exact .inl rfl

theorem firstKind_decodedLayers_cons (header : FoundHeader) (headers : List FoundHeader) :
    firstKind (decodedLayers (header :: headers) length rest) = some header.kind :=
  congrArg some header.kind_toLayer

/-- The reader at the start of a walk is the one for the first layer of its description. -/
theorem announces_of_walk (length : Nat) (walk : Walk reader segment headers rest) :
    reader.Announces (firstKind (decodedLayers headers length rest)) := by
  cases walk with
  | stop nothing =>
    have closing := firstKind_closingLayers length segment
    cases reader with
    | tsc => exact .inr closing
    | payload => exact closing
    | _ => cases nothing
  | @step _ _ header headers _ finds _ _ =>
    rw [firstKind_decodedLayers_cons, Reader.eq_of_finds finds]
    cases header with
    | vlan tag _ => cases tag <;> rfl
    | tsc _ => exact .inl rfl
    | _ => rfl

/-- Only an IP header leads to a transport layer. -/
theorem ip_of_transport {data : Bytes}
    (transport : Reader.behind header data = .udp ∨ Reader.behind header data = .tcp) :
    (∃ found, header = .ipv4 found) ∨ ∃ found, header = .ipv6 found := by
  have typed : ∀ type : EtherType,
      ¬ (Reader.ofEtherType type = .udp ∨ Reader.ofEtherType type = .tcp) := by
    intro type
    cases type <;> simp [Reader.ofEtherType]
  cases header with
  | ipv4 found => exact .inl ⟨found, rfl⟩
  | ipv6 found => exact .inr ⟨found, rfl⟩
  | ether found => exact absurd transport (typed found.etherType)
  | vlan tag found => exact absurd transport (typed found.etherType)
  | udp found =>
    simp only [Reader.behind, Reader.ofDatagram] at transport
    split at transport <;> simp at transport
  | vxlan found =>
    simp only [Reader.behind, Reader.ofVxlan] at transport
    split at transport <;> simp at transport
  | tcp found => simp [Reader.behind] at transport
  | tsc found => simp [Reader.behind] at transport

/-- The layer of an IP header takes the same checksums. -/
theorem covers_toLayer {data : Bytes}
    (transport : Reader.behind header data = .udp ∨ Reader.behind header data = .tcp) :
    Covers (some header) (some header.toLayer) := by
  rcases ip_of_transport transport with ⟨found, rfl⟩ | ⟨found, rfl⟩
  · exact covers_ipv4 _ rfl rfl
  · exact covers_ipv6 _ rfl rfl

/-- Whether a tag is repeated can be told from the headers alone. -/
theorem repeated_decodedLayers (layer : Layer) :
    layer.repeated? (firstKind (decodedLayers headers length rest)) =
      layer.repeated? (headers.head?.map FoundHeader.kind) := by
  cases headers with
  | cons next others => rw [firstKind_decodedLayers_cons]; rfl
  | nil =>
    have closing := firstKind_closingLayers length rest
    cases layer with
    | vlan tag _ =>
      have other : firstKind (closingLayers length rest) ≠ some tag.kind := by
        rcases closing with raw | payload
        · rw [raw]
          cases tag <;> decide
        · rw [payload]
          cases tag <;> decide
      exact if_neg other
    | _ => rfl

/-- Where the layers of a description stand in the frame that it describes, the headers of the frame
carry what the encoder derives. -/
theorem consistent_of_stands {capacity offset : Nat} (walk : Walk reader segment headers rest)
    (small : segment.length < 65536) (covers : reader = .udp ∨ reader = .tcp → Covers outer front)
    (buildable : Buildable capacity offset (decodedLayers headers length rest))
    (stands : Stands front (decodedLayers headers length rest) segment) :
    Consistent outer headers segment := by
  induction walk generalizing outer front offset with
  | stop nothing => trivial
  | @step reader segment header headers rest finds fits walk ih =>
    rcases buildable with ⟨-, single, others⟩
    rcases stands header.isPayload_toLayer with ⟨written, behind⟩
    have room : header.toLayer.length ≤ segment.length :=
      Nat.le_trans header.length_toLayer_le fits
    have positive : 0 < header.toLayer.length := by
      cases header <;> exact Nat.zero_lt_succ _
    -- The fields show that there are no options, so that the next layer starts behind them.
    have derived : Derived outer header (headers.head?.map FoundHeader.kind) segment :=
      derived_of_written
        ⟨finds, header.kind_toLayer.symm, header.unset_toLayer, written positive room⟩ small covers
        ((repeated_decodedLayers header.toLayer).symm.trans single)
    refine ⟨derived, ih ?_ covers_toLayer others ?_⟩
    · rw [List.length_drop]
      omega
    · rw [length_of_derived finds derived]
      exact behind

/-- The bytes behind the last header come back as they were. -/
theorem eq_of_stands_closing {data found : Bytes}
    (stands : Stands front (closingLayers length data) found)
    (same : found.length = data.length) : found = data := by
  unfold closingLayers at stands
  by_cases empty : data = []
  · subst empty
    exact List.eq_nil_of_length_eq_zero same
  · rw [if_neg empty] at stands
    have whole := (stands rfl).1 (List.length_pos_iff.2 empty) (Nat.le_of_eq same.symm)
    rw [sealing_eq_none rfl] at whole
    rw [← List.take_of_length_le (Nat.le_of_eq same)]
    exact whole

/-- Where the layers of a consistent description stand in some bytes, these are the bytes of the
described frame: the headers are determined from the last one to the first. -/
theorem eq_of_stands {found : Bytes} (walk : Walk reader segment headers rest)
    (small : segment.length < 65536) (covers : reader = .udp ∨ reader = .tcp → Covers outer front)
    (consistent : Consistent outer headers segment) (same : found.length = segment.length)
    (stands : Stands front (decodedLayers headers length rest) found) : found = segment := by
  induction walk generalizing outer front found with
  | stop nothing => exact eq_of_stands_closing stands same
  | @step reader data header headers rest finds fits walk ih =>
    rcases consistent with ⟨derived, others⟩
    have width := length_of_derived finds derived
    rcases stands header.isPayload_toLayer with ⟨written, behind⟩
    have room : header.toLayer.length ≤ data.length := Nat.le_trans header.length_toLayer_le fits
    have positive : 0 < header.toLayer.length := by
      cases header <;> exact Nat.zero_lt_succ _
    -- The bytes behind the header agree by the induction hypothesis, whatever the header is.
    have later : found.drop header.length = data.drop header.length := by
      apply ih
      · rw [List.length_drop]
        omega
      · exact covers_toLayer
      · exact others
      · rw [List.length_drop, List.length_drop, same]
      · rw [width]
        exact behind
    have again := written_of_derived finds fits small covers derived (announces_of_walk length walk)
    have stand := written positive (by rw [same]; exact room)
    rw [same] at stand
    -- Both headers are written from the same layer, with a checksum over the same bytes.
    refine eq_of_sealHeader (length_bytes header.isPayload_toLayer _ _) ?_ stand again ?_
    · intro field sum plan
      rcases Option.bind_eq_some_iff.1 plan with ⟨layer, -, plan⟩
      exact add_two_le_of_sealing plan
    · rw [← width]
      exact later

/-! ## The frame of a description -/

variable {capacity offset : Nat} {frame : Frame}

/-- The payload at the end of a description gives the frame the length that it had. -/
theorem target_closing (least : 60 ≤ length) (most : length ≤ 1514) (offset : Nat) :
    (PayloadSize.wire (length + Limits.checkLength)).target offset = length := by
  simp only [PayloadSize.target, Limits.minWireLength, Limits.maxWireLength, Limits.checkLength]
  omega

theorem reach_decodedLayers (least : 60 ≤ length) (most : length ≤ 1514) (offset : Nat) :
    reach offset (decodedLayers headers length rest) = length := by
  -- The payload at the end counts alone, whatever stands in front.
  have closed : ∀ offset, reach offset (closingLayers length rest) = length := by
    intro offset
    unfold closingLayers
    split
    · exact target_closing least most offset
    · exact target_closing least most (offset + rest.length)
  induction headers generalizing offset with
  | nil => exact closed offset
  | cons header headers ih => exact ih (header.toLayer.target offset)

/-- A description never cuts the frame that it describes. -/
theorem neverCuts_decodedLayers (walk : Walk reader segment headers rest) (least : 60 ≤ length)
    (most : length ≤ 1514) (inside : offset + segment.length ≤ length) :
    NeverCuts offset (decodedLayers headers length rest) := by
  induction walk generalizing offset with
  | @stop _ data _ =>
    have reached : ∀ offset, offset ≤ length →
        cuts (.payload (.wire (length + Limits.checkLength)) Limits.fillByte) offset = false := by
      intro offset inside
      apply decide_eq_false
      rw [target_closing least most]
      omega
    show NeverCuts offset (closingLayers length data)
    unfold closingLayers
    split
    · exact ⟨reached offset (by omega), trivial⟩
    · exact ⟨rfl, reached (offset + data.length) inside, trivial⟩
  | @step _ data header _ _ _ fits _ ih =>
    have front := header.length_toLayer_le
    have header := header.isPayload_toLayer
    refine ⟨?_, ih ?_⟩
    · unfold cuts
      split
      · rename_i payload
        rw [payload] at header
        cases header
      · rfl
    · rw [target_of_header header, List.length_drop]
      omega

/-- The payload at the end of a description asks for a frame that Ethernet allows. -/
theorem target_closing_bounds (length offset : Nat) :
    60 ≤ (PayloadSize.wire (length + Limits.checkLength)).target offset ∧
      (PayloadSize.wire (length + Limits.checkLength)).target offset ≤ 1514 := by
  simp only [PayloadSize.target, Limits.minWireLength, Limits.maxWireLength, Limits.checkLength]
  omega

/-- A buffer that holds the data and what the payload at the end asks for has room for the layers
that describe the data. -/
theorem roomFor_decodedLayers (walk : Walk reader segment headers rest)
    (inside : offset + segment.length ≤ length)
    (closing : (PayloadSize.wire (length + Limits.checkLength)).target 0 ≤ capacity)
    (room : length ≤ capacity) : RoomFor capacity offset (decodedLayers headers length rest) := by
  induction walk generalizing offset with
  | @stop _ data _ =>
    have ended : ∀ offset, RoomFor capacity offset
        [.payload (.wire (length + Limits.checkLength)) Limits.fillByte] := by
      intro offset
      rcases target_closing_bounds length offset with ⟨least, most⟩
      exact ⟨closing, .inl (Limits.clamp_eq_self least most)⟩
    show RoomFor capacity offset (closingLayers length data)
    unfold closingLayers
    split
    · exact ended offset
    · exact ⟨Nat.le_trans inside room, ended _⟩
  | @step _ data header headers _ _ fits _ ih =>
    have front := header.length_toLayer_le
    have target := target_of_header header.isPayload_toLayer offset
    refine ⟨?_, ih ?_⟩
    · rw [target]
      omega
    · rw [target, List.length_drop]
      omega

/-- No tag is repeated among headers that carry derived values. -/
theorem lastRepeat?_decodedLayers (consistent : Consistent outer headers segment) :
    lastRepeat? (decodedLayers headers length rest) = none := by
  induction headers generalizing outer segment with
  | nil =>
    unfold decodedLayers closingLayers
    split <;> rfl
  | cons header headers ih =>
    rcases consistent with ⟨derived, others⟩
    refine lastRepeat?_cons_eq_none_iff.2 ⟨ih others, ?_⟩
    refine (repeated_decodedLayers header.toLayer).trans ?_
    cases header with
    | vlan tag found => exact if_neg derived.2
    | _ => rfl

/-- The layers of a dissected frame build the frame again exactly if its headers are consistent. -/
theorem build_decodedLayers_iff (walk : Walk .ether segment headers rest)
    (least : 60 ≤ segment.length) (most : segment.length ≤ 1514) (empty : frame.dataLen = 0)
    (room : segment.length ≤ frame.capacity) :
    (∃ final, build (decodedLayers headers segment.length rest) frame = .ok final ∧
        final.data = segment) ↔ Consistent none headers segment := by
  have used : frame.dataLen ≤ frame.capacity := by
    rw [empty]
    exact Nat.zero_le _
  have whole : frame.dataLen + segment.length ≤ segment.length := by omega
  -- The payload at the end asks for the length that the frame has anyway.
  have grows : NeverCuts 0 (decodedLayers headers segment.length rest) :=
    neverCuts_decodedLayers walk least most (by omega)
  have small : segment.length < 65536 := by omega
  have covers : Reader.ether = .udp ∨ Reader.ether = .tcp → Covers none none := by simp
  constructor
  · rintro ⟨final, built, same⟩
    have stands := stands_of_build built empty grows
    rw [same] at stands
    exact consistent_of_stands walk small covers ((exists_build_iff used).1 ⟨final, built⟩) stands
  · intro consistent
    have closing : (PayloadSize.wire (segment.length + Limits.checkLength)).target 0 ≤
        frame.capacity :=
      Nat.le_trans (Nat.le_of_eq (target_closing least most 0)) room
    obtain ⟨final, built⟩ := (exists_build_iff used).2
      (buildable_iff.2 ⟨roomFor_decodedLayers walk whole closing room,
        lastRepeat?_decodedLayers consistent⟩)
    have length : final.data.length = segment.length := by
      rw [length_data_of_build built used, dataLen_of_build built used,
        reach_decodedLayers least most, Limits.clamp_eq_self least most]
    have stands := stands_of_build built empty grows
    exact ⟨final, built, eq_of_stands walk small covers consistent length stands⟩

end FrameText
