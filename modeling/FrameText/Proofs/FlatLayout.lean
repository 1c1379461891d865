import Mathlib.Control.Monad.Basic
import FrameText.Proofs.HeaderCodec
import FrameText.Proofs.Parameters
import FrameText.Proofs.Unwinding

/-!
# Flat layout — a frame as its description reads from left to right

The encoder reserves headers on its way down and writes them on its way back.  What it leaves can be
told without either way:

1. `LayerToken.flat` gives the bytes of a layer from its own parameters, the kind of the layer
   behind it and the number of bytes to the end of the frame, with the checksum cleared;
2. `LayerToken.start` adds up the lengths of the layers in front;
3. `Frame.layout_of_encode` says that every layer in front of the first payload stands at its start
   with these bytes, checksums apart.
-/

namespace FrameText

open Bytes

/-! ## Bytes of a single layer -/

namespace LayerToken

/-- The keys and values of a layer. -/
def pairs (token : LayerToken) : List (Text × Text) :=
  (assignments token.params).toOption.getD []

/-- The value that is given last for a key, or a default. -/
def given {α : Type} (token : LayerToken) (key : Key) (read : Reading α) (default : α) : α :=
  (lastGiven key read token.pairs).getD default

/-- The bytes that the text of a `Raw` layer stands for. -/
def literal (token : LayerToken) : Bytes :=
  (RawText.parse token.params).toOption.getD []

/-- The number that announces a layer behind an Ethernet header or a VLAN tag. -/
def typeNumber (next : Option LayerKind) (fallback : Nat) : Nat :=
  match next with
  | some .ipv4 => 0x0800
  | some .dot1q => 0x8100
  | some .dot1ad => 0x88A8
  | some .ipv6 => 0x86DD
  | _ => fallback

/-- The number that announces a layer behind an IP header. -/
def protocolNumber (token : LayerToken) (next : Option LayerKind) (fallback : UInt8) : UInt8 :=
  match next with
  | some .udp => 17
  | some .tcp => 6
  | _ => (token.given .proto protocolValue (.custom fallback)).toUInt8

/-- The UDP port that a layer is registered for. -/
def portNumber (next : Option LayerKind) (fallback : UInt16) : UInt16 :=
  match next with
  | some .echo => 7
  | some .vxlan => 4789
  | _ => fallback

/-- The number of bytes of a layer. -/
def length (token : LayerToken) : Nat :=
  match token.kind with
  | .ether => 14
  | .dot1q | .dot1ad => 4
  | .ipv4 => 20
  | .ipv6 => 40
  | .udp => 8
  | .tcp => 20
  | .vxlan => 8
  | .tsc => 12
  | .raw => token.literal.length
  | .echo | .payload => 0

/-- The bytes of a layer with the checksum cleared; `length` counts the bytes from the layer to the
end of the frame. -/
def flat (token : LayerToken) (next : Option LayerKind) (length : Nat) : Bytes :=
  match token.kind with
  | .ether =>
    (token.given .dst macValue ⟨0xFF, 0xFF, 0xFF, 0xFF, 0xFF, 0xFF⟩).octets ++
      (token.given .src macValue ⟨0, 0, 0, 0, 0, 0⟩).octets ++ beBytes 2 (typeNumber next 0x9000)
  | .dot1q | .dot1ad =>
    beBytes 2
        ((token.given .prio uint8 7).toNat % 8 * 8192 +
          (token.given .cfi uint8 0).toNat % 2 * 4096 +
          (token.given .vlan uint16 1).toNat % 4096) ++
      beBytes 2 (typeNumber next 0)
  | .ipv4 =>
    [0x45, token.given .tos uint8 0] ++ beBytes 2 length ++
      beBytes 2 (token.given .id uint16 1).toNat ++ [0, 0] ++
      [token.given .ttl uint8 64, token.protocolNumber next 0] ++ [0, 0] ++
      (token.given .src (address IPv4Address.ofText?) ⟨192, 10, 0, 1⟩).octets ++
      (token.given .dst (address IPv4Address.ofText?) ⟨192, 10, 0, 2⟩).octets
  | .ipv6 =>
    [0x60, 0, 0, 0] ++ beBytes 2 (length - 40) ++
      [token.protocolNumber next 59, token.given .hops uint8 64] ++
      (token.given .src (address IPv6Address.ofText?) ⟨0x2001, 0xdb8, 0, 0, 0, 0, 0, 1⟩).octets ++
      (token.given .dst (address IPv6Address.ofText?) ⟨0x2001, 0xdb8, 0, 0, 0, 0, 0, 2⟩).octets
  | .udp =>
    beBytes 2 (token.given .sport uint16 (portNumber next 1234)).toNat ++
      beBytes 2 (token.given .dport uint16 (portNumber next 5678)).toNat ++
      beBytes 2 length ++ [0, 0]
  | .tcp =>
    beBytes 2 (token.given .sport uint16 0x1234).toNat ++
      beBytes 2 (token.given .dport uint16 0x1111).toNat ++
      beBytes 4 (token.given .seq uint32 0).toNat ++
      beBytes 4 (token.given .ack uint32 0).toNat ++
      [0x50, token.given .flags uint8 0x02] ++ beBytes 2 (token.given .win uint16 8192).toNat ++
      [0, 0] ++ [0, 0]
  | .vxlan =>
    [0x08, 0, 0, if next = some .ether then 3 else 0] ++
      beBytes 3 ((token.given .vni uint32 1000).toNat % 0x1000000) ++ [0]
  | .tsc => [0x74, 0x73, 0x63, 0x3D] ++ beBytes 8 (token.given .val uint64 0).toNat
  | .raw => token.literal
  | .echo | .payload => []

/-- The start of a layer with these layers in front. -/
def start : List LayerToken → Nat
  | [] => 0
  | token :: rest => token.length + start rest

end LayerToken

/-- The bytes of a layer without the checksum that they may contain. -/
def LayerKind.clearChecksum (kind : LayerKind) (bytes : Bytes) : Bytes :=
  match kind with
  | .ipv4 => overwrite bytes 10 [0, 0]
  | .udp => overwrite bytes 6 [0, 0]
  | .tcp => overwrite bytes 16 [0, 0]
  | _ => bytes

/-! ## Layers as they are read -/

namespace LayerToken

variable {token : LayerToken} {layer : Layer} {next : Option LayerKind} {length : Nat}

/-- What can be read off the parameters of a layer can be read off its keys and values. -/
theorem observe_of_assignAll {σ τ : Type} {assign : σ → Text → Text → Except Error σ}
    (observe : List (Text × Text) → σ → τ)
    (step : ∀ {layer key value changed} rest, assign layer key value = .ok changed →
      observe ((key, value) :: rest) layer = observe rest changed)
    {defaults final : σ} (success : Layer.assignAll assign defaults token.params = .ok final) :
    observe [] final = observe token.pairs defaults := by
  rcases Layer.observe_of_assignAll observe step success with ⟨pairs, split, observed⟩
  rw [LayerToken.pairs, split]
  exact observed

/-- A length that fits into sixteen bits is not cut. -/
theorem ofUInt16_lengthField (small : length < 65536) :
    ofUInt16 (lengthField length) = beBytes 2 length := by
  have fits : min length 65535 = length := Nat.min_eq_left (Nat.le_of_lt_succ small)
  rw [ofUInt16, lengthField, fits, UInt16.toNat_ofNat_of_lt' small]

theorem toNat_typeNumber (fallback : UInt16) :
    ((EtherType.ofFollower? next).getD (.custom fallback)).toUInt16.toNat =
      typeNumber next fallback.toNat := by
  rcases next with _ | follower
  · rfl
  · cases follower <;> simp [EtherType.ofFollower?, EtherType.toUInt16, typeNumber]

theorem toUInt8_protocolNumber {protocol : Option IpProtocol} (fallback : UInt8)
    (given : protocol = lastGiven .proto protocolValue token.pairs) :
    ((IpProtocol.ofFollower? next).getD (protocol.getD (.custom fallback))).toUInt8 =
      token.protocolNumber next fallback := by
  unfold protocolNumber LayerToken.given
  rw [← given]
  rcases next with _ | follower
  · rfl
  · cases follower <;> rfl

theorem flat_ether (kind : token.kind = .ether) (read : Layer.ofToken token = .ok layer) :
    layer.bytes next length = token.flat next length := by
  rw [Layer.ofToken, kind] at read
  rcases map_eq_ok.1 read with ⟨header, set, rfl⟩
  have given : header = Layer.givenEther token.pairs {} :=
    observe_of_assignAll Layer.givenEther (fun _ => Layer.givenEther_cons) set
  have fallback : EtherType.placeholder.toNat = 0x9000 := by decide
  simp only [flat, kind, Layer.bytes, Layer.headerBytes, Option.getD_some, Header.put, ofUInt16,
    toNat_typeNumber, given, fallback, Layer.givenEther, LayerToken.given]
  rfl

theorem flat_vlan {tag : VlanTag} (kind : token.kind = tag.kind)
    (read : Layer.ofToken token = .ok layer) :
    layer.bytes next length = token.flat next length := by
  -- The control word is compared as a number, since each parameter cuts the others again.
  have control : ∀ header : VlanHeader, header.control.toNat = Layer.givenVlan [] header := by
    intro header
    rw [header.toNat_control, Layer.givenVlan]
    cases header.dropEligible <;> rfl
  have settled : ∀ header,
      Layer.assignAll (Layer.assignVlan tag) (.ofFields 1 7 false) token.params =
      .ok header → Header.put { header with
        etherType := (EtherType.ofFollower? next).getD (.custom 0) } = token.flat next length := by
    intro header set
    have given : Layer.givenVlan [] header = Layer.givenVlan token.pairs (.ofFields 1 7 false) :=
      observe_of_assignAll Layer.givenVlan (fun _ => Layer.givenVlan_cons) set
    have flat : token.flat next length =
        beBytes 2 (Layer.givenVlan token.pairs (.ofFields 1 7 false)) ++
          beBytes 2 (typeNumber next 0) := by
      rw [Layer.givenVlan_ofFields]
      cases tag <;> rw [LayerToken.flat, kind] <;> rfl
    rw [flat, ← given, ← control header]
    simp only [Header.put, ofUInt16, toNat_typeNumber]
    rfl
  cases tag
  all_goals
    rw [Layer.ofToken, kind] at read
    rcases map_eq_ok.1 read with ⟨header, set, rfl⟩
    exact settled header set

theorem flat_ipv4 (kind : token.kind = .ipv4) (read : Layer.ofToken token = .ok layer)
    (small : length < 65536) :
    overwrite (layer.bytes next length) 10 [0, 0] = token.flat next length := by
  rw [Layer.ofToken, kind] at read
  rcases map_eq_ok.1 read with ⟨⟨header, protocol⟩, set, rfl⟩
  have given : (header, protocol) = Layer.givenIPv4 token.pairs ({}, none) :=
    observe_of_assignAll Layer.givenIPv4 (fun _ => Layer.givenIPv4_cons) set
  rw [Layer.givenIPv4, Prod.mk.injEq, Option.or_none] at given
  have number := @toUInt8_protocolNumber token next protocol 0 given.2
  have field := ofUInt16_lengthField small
  -- With the checksum cleared it does not matter which one was computed.
  have settled : overwrite ((Layer.ipv4 header protocol).bytes next length) 10 [0, 0] =
      Header.put { header with
        totalLength := lengthField length
        protocol := (IpProtocol.ofFollower? next).getD (protocol.getD (.custom 0))
        checksum := 0 } :=
    IPv4Header.clear_withChecksum _
  rw [settled]
  simp only [Header.put, flat, kind, ← field, number, LayerToken.given, given.1]
  rfl

theorem flat_ipv6 (kind : token.kind = .ipv6) (read : Layer.ofToken token = .ok layer)
    (small : length < 65536) :
    layer.bytes next length = token.flat next length := by
  rw [Layer.ofToken, kind] at read
  rcases map_eq_ok.1 read with ⟨⟨header, protocol⟩, set, rfl⟩
  have given : (header, protocol) = Layer.givenIPv6 token.pairs ({}, none) :=
    observe_of_assignAll Layer.givenIPv6 (fun _ => Layer.givenIPv6_cons) set
  rw [Layer.givenIPv6, Prod.mk.injEq, Option.or_none] at given
  have number := @toUInt8_protocolNumber token next protocol IpProtocol.noNextHeader given.2
  have field := @ofUInt16_lengthField (length - 40) (by omega)
  simp only [flat, kind, ← field, LayerToken.given]
  rw [Layer.bytes, Layer.headerBytes, Option.getD_some, Layer.finishIPv6, given.1]
  simp only [Header.put, number]
  rfl

theorem flat_udp (kind : token.kind = .udp) (read : Layer.ofToken token = .ok layer)
    (small : length < 65536) :
    overwrite (layer.bytes next length) 6 [0, 0] = token.flat next length := by
  rw [Layer.ofToken, kind] at read
  rcases map_eq_ok.1 read with ⟨⟨source, destination⟩, set, rfl⟩
  have given : (source, destination) = Layer.givenUdp token.pairs (none, none) :=
    observe_of_assignAll Layer.givenUdp (fun _ => Layer.givenUdp_cons) set
  rw [Layer.givenUdp, Prod.mk.injEq, Option.or_none, Option.or_none] at given
  have field := ofUInt16_lengthField small
  have ports : (UdpHeader.ofFollower next).sourcePort = portNumber next 1234 ∧
      (UdpHeader.ofFollower next).destinationPort = portNumber next 5678 := by
    rcases next with _ | follower
    · exact ⟨rfl, rfl⟩
    · cases follower <;> exact ⟨rfl, rfl⟩
  have settled : overwrite ((Layer.udp source destination).bytes next length) 6 [0, 0] =
      Header.put { Layer.finishUdp source destination next length with checksum := 0 } :=
    (UdpHeader.put_checksum _ 0).symm
  rw [settled]
  simp only [Header.put, Layer.finishUdp, flat, kind, ← field, LayerToken.given, ← given.1,
    ← given.2, ← ports.1, ← ports.2]
  rfl

theorem flat_tcp (kind : token.kind = .tcp) (read : Layer.ofToken token = .ok layer) :
    overwrite (layer.bytes next length) 16 [0, 0] = token.flat next length := by
  rw [Layer.ofToken, kind] at read
  rcases map_eq_ok.1 read with ⟨header, set, rfl⟩
  have given : header = Layer.givenTcp token.pairs {} :=
    observe_of_assignAll Layer.givenTcp (fun _ => Layer.givenTcp_cons) set
  rw [Layer.givenTcp] at given
  have settled : overwrite ((Layer.tcp header).bytes next length) 16 [0, 0] =
      Header.put { header with checksum := 0 } := (header.put_checksum 0).symm
  rw [settled]
  simp only [Header.put, flat, kind, LayerToken.given, given]
  rfl

theorem flat_vxlan (kind : token.kind = .vxlan) (read : Layer.ofToken token = .ok layer) :
    layer.bytes next length = token.flat next length := by
  rw [Layer.ofToken, kind] at read
  rcases map_eq_ok.1 read with ⟨header, set, rfl⟩
  have given : header = Layer.givenVxlan token.pairs {} :=
    observe_of_assignAll Layer.givenVxlan (fun _ => Layer.givenVxlan_cons) set
  rw [Layer.givenVxlan] at given
  simp only [flat, kind, LayerToken.given]
  rw [Layer.bytes, Layer.headerBytes, Option.getD_some, VxlanHeader.put_eq, given]
  cases lastGiven .vni uint32 token.pairs with
  | none => rfl
  | some vni => simp [VxlanHeader.ofVni, VxlanHeader.nextEthernet]

/-- The counter of a marker is the one that is given last. -/
theorem value_of_tsc {marker : Timestamp} (kind : token.kind = .tsc)
    (read : Layer.ofToken token = .ok (.tsc marker)) :
    marker.value = token.given .val uint64 0 := by
  rw [Layer.ofToken, kind] at read
  rcases map_eq_ok.1 read with ⟨header, set, result⟩
  cases result
  have given : marker = Layer.givenTsc token.pairs {} :=
    observe_of_assignAll Layer.givenTsc (fun _ => Layer.givenTsc_cons) set
  rw [given, Layer.givenTsc, LayerToken.given]

theorem flat_tsc (kind : token.kind = .tsc) (read : Layer.ofToken token = .ok layer) :
    layer.bytes next length = token.flat next length := by
  obtain ⟨marker, rfl⟩ : ∃ marker, layer = .tsc marker := by
    rw [Layer.ofToken, kind] at read
    rcases map_eq_ok.1 read with ⟨marker, -, rfl⟩
    exact ⟨marker, rfl⟩
  have settled : (Layer.tsc marker).bytes next length = Header.put marker := rfl
  rw [settled]
  simp only [Header.put, Timestamp.mark, ofUInt64, flat, kind, value_of_tsc kind read]

/-- A layer that is read has the kind that its name says. -/
theorem kind_of_ofToken (read : Layer.ofToken token = .ok layer) : layer.kind = token.kind := by
  cases kind : token.kind with
  | _ =>
    rw [Layer.ofToken, kind] at read
    rcases map_eq_ok.1 read with ⟨_, -, rfl⟩
    rfl

theorem literal_eq {bytes : Bytes} (found : RawText.parse token.params = .ok bytes) :
    token.literal = bytes := by
  rw [literal, found]
  rfl

/-- A layer that is read has as many bytes as its token says. -/
theorem length_of_ofToken (read : Layer.ofToken token = .ok layer) :
    layer.length = token.length := by
  cases kind : token.kind with
  | raw =>
    rw [Layer.ofToken, kind] at read
    rcases map_eq_ok.1 read with ⟨bytes, found, rfl⟩
    rw [LayerToken.length, kind]
    exact (congrArg List.length (literal_eq found)).symm
  | _ =>
    rw [Layer.ofToken, kind] at read
    rcases map_eq_ok.1 read with ⟨_, -, rfl⟩
    rw [LayerToken.length, kind]
    rfl

/-- The bytes of a layer that is read, without its checksum. -/
theorem flat_of_ofToken (read : Layer.ofToken token = .ok layer)
    (header : layer.isPayload = false) (small : length < 65536) :
    token.kind.clearChecksum (layer.bytes next length) = token.flat next length := by
  cases kind : token.kind with
  | ether => exact flat_ether kind read
  | dot1q => exact @flat_vlan _ _ _ _ .customer kind read
  | dot1ad => exact @flat_vlan _ _ _ _ .service kind read
  | ipv4 => exact flat_ipv4 kind read small
  | ipv6 => exact flat_ipv6 kind read small
  | udp => exact flat_udp kind read small
  | tcp => exact flat_tcp kind read
  | vxlan => exact flat_vxlan kind read
  | tsc => exact flat_tsc kind read
  | echo =>
    rw [Layer.ofToken, kind] at read
    rcases map_eq_ok.1 read with ⟨_, -, rfl⟩
    rw [flat, kind]
    rfl
  | raw =>
    rw [Layer.ofToken, kind] at read
    rcases map_eq_ok.1 read with ⟨bytes, found, rfl⟩
    rw [flat, kind]
    exact (literal_eq found).symm
  | payload =>
    rw [Layer.ofToken, kind] at read
    rcases map_eq_ok.1 read with ⟨_, -, rfl⟩
    cases header

end LayerToken

namespace LayerToken

variable {tokens : List LayerToken} {layers : List Layer}

/-- Layers start where their tokens say. -/
theorem start_of_mapM (read : tokens.mapM Layer.ofToken = .ok layers) :
    Layer.totalLength layers = start tokens := by
  induction tokens generalizing layers with
  | nil =>
    cases read
    rfl
  | cons token rest ih =>
    rcases mapM_cons_eq_ok.1 read with ⟨layer, others, first, behind, rfl⟩
    rw [Layer.totalLength, start, length_of_ofToken first, ih behind]

/-- Layers have the kinds that their names say. -/
theorem kinds_of_mapM (read : tokens.mapM Layer.ofToken = .ok layers) :
    layers.map Layer.kind = tokens.map LayerToken.kind := by
  induction tokens generalizing layers with
  | nil =>
    cases read
    rfl
  | cons token rest ih =>
    rcases mapM_cons_eq_ok.1 read with ⟨layer, others, first, behind, rfl⟩
    rw [List.map_cons, List.map_cons, kind_of_ofToken first, ih behind]

theorem exists_token_of_mapM (read : tokens.mapM Layer.ofToken = .ok layers)
    (member : layer ∈ layers) : ∃ token ∈ tokens, token.kind = layer.kind := by
  have kind := List.mem_map_of_mem (f := Layer.kind) member
  rw [kinds_of_mapM read] at kind
  exact List.mem_map.1 kind

/-- Layers are payloads where their tokens say so. -/
theorem isPayload_of_mapM (read : tokens.mapM Layer.ofToken = .ok layers)
    (headers : ∀ token ∈ tokens, token.kind ≠ .payload) :
    ∀ layer ∈ layers, layer.isPayload = false := by
  intro layer member
  obtain ⟨token, named, kind⟩ := exists_token_of_mapM read member
  exact Layer.isPayload_eq_false (kind ▸ headers token named)

theorem firstKind_of_mapM (read : tokens.mapM Layer.ofToken = .ok layers) :
    Layer.firstKind layers = tokens.head?.map LayerToken.kind := by
  rw [Layer.firstKind, ← List.head?_map, ← List.head?_map, kinds_of_mapM read]

end LayerToken

namespace Layer

variable {before : List Layer}

/-- A seal stands where the checksum is cleared. -/
theorem clearChecksum_sealHeader {layer : Layer} {segment header : Bytes}
    (width : header.length = layer.length) :
    layer.kind.clearChecksum (sealHeader (sealingBehind before (some layer.kind)) segment header) =
      layer.kind.clearChecksum header := by
  match plan : sealingBehind before (some layer.kind) with
  | none => rfl
  | some (field, sum) =>
    rcases transportField_of_sealingBehind plan with ⟨wire, transport⟩
    have zeros : ([0, 0] : Bytes).length = 2 := rfl
    -- Whatever was filled in, it is cleared.
    have clear : field ≤ header.length → ∀ checksum : UInt16,
        overwrite (overwrite header field (ofUInt16 checksum)) field [0, 0] =
          overwrite header field [0, 0] :=
      fun inside checksum => overwrite_overwrite (by rw [length_ofUInt16, zeros]) inside
    cases layer with
    | udp _ _ =>
      cases transport
      exact clear (by rw [width]; show 6 ≤ 8; omega) _
    | tcp _ =>
      cases transport
      exact clear (by rw [width]; show 16 ≤ 20; omega) _
    | vlan tag _ => cases tag <;> cases transport
    | _ => cases transport

end Layer

/-! ## Finished frames -/

open Layer in
/-- Every layer of an encoded frame that stands in front of the first payload has the bytes that its
own parameters, the layer behind it and the length of the frame call for, checksums apart.  No
length is too large for its field. -/
theorem Frame.layout_of_encode {config : Config} {frame : Frame}
    (success : (frame.encode config).result = .ok ()) :
    ∃ tokens layers, (Encoding.scan config.verbose frame.text).1 = .ok tokens ∧
      tokens.mapM Layer.ofToken = .ok layers ∧
      (frame.encode config).state.data.length ≤ 1514 ∧
      (NeverCuts 0 layers →
        ∀ before token after offset, tokens = before ++ token :: after →
          (∀ outer ∈ before, outer.kind ≠ .payload) → offset = LayerToken.start before →
          offset + token.length ≤ (frame.encode config).state.data.length →
          token.kind.clearChecksum
              (slice (frame.encode config).state.data offset token.length) =
            token.flat (after.head?.map LayerToken.kind)
              ((frame.encode config).state.data.length - offset)) := by
  rcases Frame.encode_eq_ok.1 ⟨success, rfl⟩ with ⟨layers, spelled, built⟩
  rcases bind_eq_ok.1 spelled with ⟨tokens, scanned, read⟩
  have used : frame.reset.dataLen ≤ frame.reset.capacity := Nat.zero_le _
  have short : (frame.encode config).state.data.length ≤ 1514 := by
    rw [length_data_of_build built used, dataLen_of_build built used]
    exact (Limits.clamp_bounds _).2
  -- The layers are split where the tokens are.
  refine ⟨tokens, layers, (scan_result config.verbose _).trans scanned, read, short, ?_⟩
  intro grows before token after offset split headers place inside
  generalize (frame.encode config).state = final at built short inside ⊢
  subst split
  rcases mapM_append_eq_ok.1 read with ⟨front, others, frontRead, othersRead, rfl⟩
  rcases mapM_cons_eq_ok.1 othersRead with ⟨layer, back, layerRead, backRead, rfl⟩
  rw [← LayerToken.firstKind_of_mapM backRead]
  by_cases payload : token.kind = .payload
  · rw [LayerToken.length, LayerToken.flat, payload]
    rfl
  have frontHeaders := LayerToken.isPayload_of_mapM frontRead headers
  have header : layer.isPayload = false :=
    isPayload_eq_false (by rw [LayerToken.kind_of_ofToken layerRead]; exact payload)
  have start : offset = frame.reset.dataLen + totalLength front := by
    rw [LayerToken.start_of_mapM frontRead, place]
    exact (Nat.zero_add _).symm
  rw [← LayerToken.length_of_ofToken layerRead] at inside ⊢
  have small : offset + layer.length < Limits.wordBound := by
    rw [Limits.wordBound]
    omega
  have behind : NeverCuts (offset + layer.length) back := by
    have here := neverCuts_append frontHeaders grows
    rw [← target_of_header header, start]
    exact here.2
  rw [header_of_build frontHeaders header used built start inside small (.inr behind),
    ← LayerToken.kind_of_ofToken layerRead, clearChecksum_sealHeader (length_bytes header _ _),
    LayerToken.kind_of_ofToken layerRead]
  exact LayerToken.flat_of_ofToken layerRead header (by omega)

/-- A datagram whose port is given twice, in a frame that is padded: the last value counts, and the
length reaches to the end of the frame. -/
theorem Frame.layout_of_datagram :
    let frame := Frame.new "ping".toList
      "Ether()/IPv4(ttl=9)/UDP(dport=9,DPORT=0x35)/Raw('abc')/Payload(len=64)".toList 60
    (frame.encode {}).result = .ok () ∧
      Layer.NeverCuts 0
        [.ether {}, .ipv4 { ttl := 9 } none, .udp none (some 0x35), .raw [0x61, 0x62, 0x63],
          .payload (.wire 64) 0x25] ∧
      LayerKind.udp.clearChecksum (slice (frame.encode {}).state.data 34 8) =
        [0x04, 0xD2, 0x00, 0x35, 0x00, 0x1A, 0x00, 0x00] := by
  intro frame
  have success : (frame.encode {}).result = .ok () := by decide +kernel
  have grows : Layer.NeverCuts 0 [.ether {}, .ipv4 { ttl := 9 } none, .udp none (some 0x35),
      .raw [0x61, 0x62, 0x63], .payload (.wire 64) 0x25] := by decide
  let front : List LayerToken := [⟨.ether, "()".toList⟩, ⟨.ipv4, "(ttl=9)".toList⟩]
  let datagram : LayerToken := ⟨.udp, "(dport=9,DPORT=0x35)".toList⟩
  let back : List LayerToken := [⟨.raw, "('abc')".toList⟩, ⟨.payload, "(len=64)".toList⟩]
  have scanned : (Encoding.scan false frame.text).1 = .ok (front ++ datagram :: back) := by
    decide +kernel
  have read : (front ++ datagram :: back).mapM Layer.ofToken =
      .ok [.ether {}, .ipv4 { ttl := 9 } none, .udp none (some 0x35), .raw [0x61, 0x62, 0x63],
        .payload (.wire 64) 0x25] := by
    decide +kernel
  have length : (frame.encode {}).state.data.length = 60 := by decide +kernel
  rcases Frame.layout_of_encode success with ⟨tokens, layers, found, spelled, -, layout⟩
  obtain rfl := Except.ok.inj (found.symm.trans scanned)
  obtain rfl := Except.ok.inj (spelled.symm.trans read)
  have header := layout grows front datagram back 34 rfl (by decide) (by decide +kernel)
    (by rw [length]; decide)
  rw [length] at header
  exact ⟨success, grows, header.trans (by decide +kernel)⟩

end FrameText
