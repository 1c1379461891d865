import FrameText.Proofs.Fixpoint
import FrameText.Proofs.Parameters
import FrameText.Proofs.TextLength

/-!
# Round trip — from a description to bytes, to text and to bytes again

Dissection finds the layers of an encoded frame again, up to the first one that has no reader of its
own or that nothing announces.  What it finds carries derived values, so that its text gives the
same bytes.

1. `NeverMisleads` excludes descriptions that announce a layer which does not follow.
2. `meets_behind` says that a written header leads to the reader of the layer behind it, or to none.
3. `exists_walk` follows the layers of a frame.
4. `Frame.decode_encode` is the round trip.
-/

namespace FrameText

open Bytes Layer

/-! ## Layers of a description -/

namespace Layer

/-- No parameter sets the other fields of a layer. -/
theorem unset_of_ofToken {token : LayerToken} {layer : Layer} (read : ofToken token = .ok layer) :
    layer.Unset := by
  rcases token with ⟨kind, params⟩
  cases kind with
  | ipv4 =>
    rcases map_eq_ok.1 read with ⟨given, assigned, rfl⟩
    rcases observe_of_assignAll givenIPv4 (fun _ => givenIPv4_cons) assigned with ⟨pairs, -, same⟩
    -- Whatever is given, these fields stay what they are in the defaults.
    have fields := congrArg (fun layer => (layer.1.versionIhl, layer.1.fragmentOffset)) same
    exact Prod.mk.inj fields
  | ipv6 =>
    rcases map_eq_ok.1 read with ⟨given, assigned, rfl⟩
    rcases observe_of_assignAll givenIPv6 (fun _ => givenIPv6_cons) assigned with ⟨pairs, -, same⟩
    exact congrArg (fun layer => layer.1.vtcFlow) same
  | tcp =>
    rcases map_eq_ok.1 read with ⟨given, assigned, rfl⟩
    rcases observe_of_assignAll givenTcp (fun _ => givenTcp_cons) assigned with ⟨pairs, -, same⟩
    have fields := congrArg (fun header => (header.dataOffset, header.urgentPointer)) same
    exact Prod.mk.inj fields
  | vxlan =>
    rcases map_eq_ok.1 read with ⟨given, assigned, rfl⟩
    rcases observe_of_assignAll givenVxlan (fun _ => givenVxlan_cons) assigned with ⟨pairs, -, same⟩
    have set : given = givenVxlan pairs {} := same
    rw [set, givenVxlan]
    cases lastGiven .vni uint32 pairs <;> exact ⟨rfl, rfl⟩
  | _ =>
    rcases map_eq_ok.1 read with ⟨given, -, rfl⟩
    trivial

theorem unset_of_ofDescription {text : Text} {layers : List Layer}
    (spelled : ofDescription text = .ok layers) : ∀ layer ∈ layers, layer.Unset := by
  rcases bind_eq_ok.1 spelled with ⟨tokens, -, read⟩
  clear spelled
  induction tokens generalizing layers with
  | nil =>
    cases read
    intro layer member
    cases member
  | cons token tokens ih =>
    rcases mapM_cons_eq_ok.1 read with ⟨first, others, firstRead, othersRead, rfl⟩
    intro layer member
    rcases List.mem_cons.1 member with rfl | later
    · exact unset_of_ofToken firstRead
    · exact ih othersRead layer later

theorem length_of_scanLayers {verbose : Bool} {index : Nat} {texts : List Text}
    {tokens : List LayerToken}
    (scanned : (Encoding.scanLayers verbose index texts).1 = .ok tokens) :
    tokens.length = texts.length := by
  induction texts generalizing index tokens with
  | nil =>
    cases scanned
    rfl
  | cons text texts ih =>
    unfold Encoding.scanLayers at scanned
    cases known : LayerToken.ofText? text with
    | none =>
      rw [known] at scanned
      cases scanned
    | some token =>
      rw [known] at scanned
      rcases map_eq_ok.1 scanned with ⟨others, later, rfl⟩
      exact congrArg (· + 1) (ih later)

theorem length_of_ofDescription {text : Text} {layers : List Layer}
    (spelled : ofDescription text = .ok layers) : layers.length ≤ 31 := by
  rcases bind_eq_ok.1 spelled with ⟨tokens, scanned, read⟩
  rw [length_of_mapM read]
  unfold Encoding.scan splitLayers at scanned
  by_cases many : Limits.maxLayers < (layerTexts text).length
  · simp only [if_pos many] at scanned
    cases scanned
  · simp only [if_neg many] at scanned
    have bounded : (layerTexts text).length ≤ 31 := Nat.le_of_not_lt many
    cases texts : layerTexts text with
    | nil =>
      rw [texts] at scanned
      cases scanned
    | cons first others =>
      rw [texts] at scanned bounded
      rw [length_of_scanLayers scanned]
      exact bounded

/-- Whether the number that a layer gives for what follows names a layer that does not follow. -/
def misleads (layer : Layer) (next : Option LayerKind) : Bool :=
  match layer with
  | ipv4 _ (some protocol) | ipv6 _ (some protocol) =>
    decide (IpProtocol.ofFollower? next = none ∧ (protocol.toUInt8 = 6 ∨ protocol.toUInt8 = 17))
  | udp source destination =>
    decide ((finishUdp source destination next 0).destinationPort = Limits.vxlanPort ∧
      next ≠ some .vxlan)
  | _ => false

/-- No layer names a layer that does not follow. -/
def NeverMisleads : List Layer → Prop
  | [] => True
  | layer :: rest => layer.misleads (firstKind rest) = false ∧ NeverMisleads rest

instance decidableNeverMisleads : (layers : List Layer) → Decidable (NeverMisleads layers)
  | [] => inferInstanceAs (Decidable True)
  | _ :: rest =>
    have := decidableNeverMisleads rest
    inferInstanceAs (Decidable (_ ∧ _))

end Layer

/-! ## The reader behind a written header -/

/-- A reader that need not find a header. -/
def Reader.Ends (reader : Reader) : Prop :=
  reader = .payload ∨ reader = .tsc

/-- Whether a reader is the one for what follows, or one that need not find a header. -/
def Reader.Meets (reader : Reader) (next : Option LayerKind) : Prop :=
  reader.Ends ∨ ∃ kind, next = some kind ∧ reader = .ofKind kind

section Behind

variable {reader : Reader} {header : FoundHeader} {layer : Layer} {segment : Bytes}
  {outer : Option FoundHeader} {front : Option Layer} {next : Option LayerKind}

theorem meets_ofEtherType {fallback : UInt16}
    (unregistered : EtherType.ofUInt16 fallback = .custom fallback) (next : Option LayerKind) :
    (Reader.ofEtherType
      (.ofUInt16 ((EtherType.ofFollower? next).getD (.custom fallback)).toUInt16)).Meets next := by
  have nothing : EtherType.ofFollower? next = none →
      Reader.ofEtherType
        (.ofUInt16 ((EtherType.ofFollower? next).getD (.custom fallback)).toUInt16) = .payload := by
    intro none
    rw [none, Option.getD_none, EtherType.toUInt16, unregistered]
    rfl
  rcases next with _ | follower
  · exact .inl (.inl (nothing rfl))
  · cases follower with
    | dot1q | dot1ad | ipv4 | ipv6 => exact .inr ⟨_, rfl, rfl⟩
    | _ => exact .inl (.inl (nothing rfl))

theorem meets_ofProtocol {protocol : IpProtocol} (next : Option LayerKind)
    (free : IpProtocol.ofFollower? next = none → protocol.toUInt8 ≠ 6 ∧ protocol.toUInt8 ≠ 17) :
    (Reader.ofProtocol
      (.ofUInt8 ((IpProtocol.ofFollower? next).getD protocol).toUInt8)).Meets next := by
  have nothing : IpProtocol.ofFollower? next = none →
      Reader.ofProtocol
        (.ofUInt8 ((IpProtocol.ofFollower? next).getD protocol).toUInt8) = .tsc := by
    intro none
    rcases free none with ⟨tcp, udp⟩
    rw [none, Option.getD_none, IpProtocol.ofUInt8, if_neg tcp, if_neg udp]
    rfl
  rcases next with _ | follower
  · exact .inl (.inr (nothing rfl))
  · cases follower with
    | udp | tcp => exact .inr ⟨_, rfl, rfl⟩
    | _ => exact .inl (.inr (nothing rfl))

/-- A protocol that is given, or the default where none is, does not mislead. -/
theorem free_of_honest {protocol : Option IpProtocol} {fallback : UInt8}
    (unregistered : fallback ≠ 6 ∧ fallback ≠ 17)
    (honest : ∀ given, protocol = some given →
      ¬ (IpProtocol.ofFollower? next = none ∧ (given.toUInt8 = 6 ∨ given.toUInt8 = 17))) :
    IpProtocol.ofFollower? next = none →
      (protocol.getD (.custom fallback)).toUInt8 ≠ 6 ∧
        (protocol.getD (.custom fallback)).toUInt8 ≠ 17 := by
  intro none
  cases protocol with
  | none => exact unregistered
  | some given =>
    have other := honest given rfl
    exact ⟨fun tcp => other ⟨none, .inl tcp⟩, fun udp => other ⟨none, .inr udp⟩⟩

/-- A header that was written leads to the reader of the layer behind it, or to none. -/
theorem meets_behind (placed : Written reader header layer front next segment)
    (honest : layer.misleads next = false)
    (covers : reader = .udp ∨ reader = .tcp → Covers outer front) (rest : Bytes) :
    (Reader.behind header rest).Meets next := by
  rcases placed with ⟨finds, kind, unset, written⟩
  obtain rfl := Reader.eq_of_finds finds
  rw [kind] at finds covers
  cases layer with
  | ether header =>
    cases finds
    rw [sealing_eq_none rfl] at written
    rw [Reader.behind, get_ether written]
    exact meets_ofEtherType rfl next
  | vlan tag header =>
    rw [sealing_eq_none (by cases tag <;> rfl)] at written
    -- Both kinds of tag are read alike.
    have type : ∀ found, Reader.finds (.ofKind (vlan tag header).kind) segment = some found →
        Reader.behind found rest =
          Reader.ofEtherType (Header.get segment : VlanHeader).etherType := by
      intro found finds
      cases tag <;> cases finds <;> rfl
    rw [type _ finds, get_vlan written]
    exact meets_ofEtherType rfl next
  | ipv4 header protocol =>
    cases finds
    rw [sealing_eq_none rfl] at written
    rw [Reader.behind, get_ipv4 written]
    refine meets_ofProtocol next (free_of_honest (by decide) ?_)
    rintro given rfl
    exact of_decide_eq_false honest
  | ipv6 header protocol =>
    cases finds
    rw [sealing_eq_none rfl] at written
    rw [Reader.behind, get_ipv6 written]
    refine meets_ofProtocol next (free_of_honest (by decide) ?_)
    rintro given rfl
    exact of_decide_eq_false honest
  | udp source destination =>
    cases finds
    have sealing := sealing_udp (covers (.inl rfl))
    rw [Layer.kind, sealing] at written
    rw [Reader.behind, get_udp written, Reader.ofDatagram]
    split
    · rename_i vxlan
      have follows : next = some .vxlan :=
        Classical.byContradiction fun other => of_decide_eq_false honest ⟨vxlan.1, other⟩
      exact .inr ⟨.vxlan, follows, rfl⟩
    · exact .inl (.inr rfl)
  | tcp header =>
    cases finds
    exact .inl (.inr rfl)
  | vxlan header =>
    cases finds
    rw [sealing_eq_none rfl] at written
    rw [Reader.behind, get_vxlan written, Reader.ofVxlan]
    by_cases ethernet : next = some .ether
    · exact .inr ⟨.ether, ethernet, if_pos (if_pos ethernet)⟩
    · refine .inl (.inl (if_neg ?_))
      show ¬ (if next = some .ether then VxlanHeader.nextEthernet else header.nextProtocol) = _
      rw [if_neg ethernet, unset.2]
      decide
  | tsc marker =>
    cases header with
    | tsc _ => exact .inl (.inl rfl)
    | vlan tag _ => cases tag <;> cases kind
    | _ => cases kind
  | echo => cases finds
  | raw bytes => cases finds
  | payload size fill => cases finds

/-- The layer that wrote an IP header takes the checksums that the header calls for. -/
theorem covers_behind (placed : Written reader header layer front next segment) {rest : Bytes}
    (transport : Reader.behind header rest = .udp ∨ Reader.behind header rest = .tcp) :
    Covers (some header) (some layer) := by
  rcases placed with ⟨finds, kind, -, written⟩
  obtain rfl := Reader.eq_of_finds finds
  rw [kind] at finds
  rcases ip_of_transport transport with ⟨found, rfl⟩ | ⟨found, rfl⟩
  · cases layer with
    | ipv4 header protocol =>
      cases finds
      rw [sealing_eq_none rfl] at written
      exact covers_ipv4 protocol (by rw [get_ipv4 written]; rfl) (by rw [get_ipv4 written]; rfl)
    | vlan tag _ => cases tag <;> cases kind
    | _ => cases kind
  · cases layer with
    | ipv6 header protocol =>
      cases finds
      rw [sealing_eq_none rfl] at written
      exact covers_ipv6 protocol (by rw [get_ipv6 written]; rfl) (by rw [get_ipv6 written]; rfl)
    | vlan tag _ => cases tag <;> cases kind
    | _ => cases kind

end Behind

/-! ## Walks through a frame -/

section Walks

variable {reader : Reader} {header : FoundHeader} {segment : Bytes} {outer : Option FoundHeader}
  {front : Option Layer} {layer : Layer} {layers : List Layer} {offset : Nat}

/-- Where no header need follow, at most a timestamp marker is found. -/
theorem exists_walk_of_ends (ends : reader.Ends) :
    ∃ headers rest, Walk reader segment headers rest ∧ Consistent outer headers segment ∧
      headers.length ≤ 1 := by
  rcases ends with rfl | rfl
  · exact ⟨[], segment, .stop rfl, trivial, Nat.zero_le _⟩
  · by_cases marked : Timestamp.startsAt segment = true
    · have fits : Header.size Timestamp ≤ segment.length :=
        of_decide_eq_true (Bool.and_eq_true_iff.1 marked).1
      exact ⟨[.tsc (Header.get segment)], _, .step (if_pos marked) fits (.stop rfl),
        ⟨trivial, trivial⟩, Nat.le_refl _⟩
    · exact ⟨[], segment, .stop (if_neg marked), trivial, Nat.zero_le _⟩

/-- Any other reader is the one for what follows. -/
theorem eq_ofKind_of_meets {kind : LayerKind} (meets : reader.Meets (some kind))
    (goesOn : ¬ reader.Ends) : reader = .ofKind kind := by
  rcases meets with ends | ⟨found, same, reads⟩
  · exact absurd ends goesOn
  · rw [reads, ← Option.some.inj same]

/-- A layer whose reader goes on has a header of at most 40 bytes, which is found. -/
theorem exists_finds (goesOn : ¬ (Reader.ofKind layer.kind).Ends) (segment : Bytes) :
    layer.isPayload = false ∧ 0 < layer.length ∧ layer.length ≤ 40 ∧
      ∃ header, (Reader.ofKind layer.kind).finds segment = some header ∧
        header.kind = layer.kind ∧ header.toLayer.length = layer.length := by
  cases layer with
  | tsc _ => exact absurd (.inr rfl) goesOn
  | echo | raw _ | payload _ _ => exact absurd (.inl rfl) goesOn
  | vlan tag _ =>
    refine ⟨rfl, Nat.zero_lt_succ _, Nat.le_of_ble_eq_true rfl, ?_⟩
    cases tag <;> exact ⟨_, rfl, rfl, rfl⟩
  | _ => exact ⟨rfl, Nat.zero_lt_succ _, Nat.le_of_ble_eq_true rfl, _, rfl, rfl, rfl⟩

theorem repeated_none (layer : Layer) : layer.repeated? none = none := by
  cases layer <;> rfl

/-- A header has no options where a layer was written. -/
theorem length_of_written {next : Option LayerKind}
    (placed : Written reader header layer front next segment) (small : segment.length < 65536)
    (covers : reader = .udp ∨ reader = .tcp → Covers outer front) :
    header.length = header.toLayer.length :=
  length_of_derived placed.finds (derived_of_written placed small covers (repeated_none layer))

/-- Where the layers repeat no tag, the headers do not either. -/
theorem repeated_of_walk {headers : List FoundHeader} {rest : Bytes}
    (walk : Walk reader segment headers rest) (meets : reader.Meets (firstKind layers))
    (single : layer.repeated? (firstKind layers) = none) :
    layer.repeated? (headers.head?.map FoundHeader.kind) = none := by
  cases walk with
  | stop nothing => exact repeated_none layer
  | step finds fits walk =>
    cases layer with
    | vlan tag _ =>
      refine if_neg fun same => ?_
      -- A second tag would have been found by its own reader, which leads to a layer of its kind.
      have kind : Reader.ofKind tag.kind = reader := by
        rw [Reader.eq_of_finds finds, ← Option.some.inj same]
      rcases meets with (rfl | rfl) | ⟨next, follows, rfl⟩
      · cases tag <;> cases kind
      · cases tag <;> cases kind
      · have again : next = tag.kind := by
          cases tag <;> cases next <;> first | rfl | cases kind
        rw [follows, again, repeated?, if_pos rfl] at single
        cases single
    | _ => rfl

/-- A header that ends within the limits of Ethernet lies within a frame that is not cut. -/
theorem length_le_of_reach (header : layer.isPayload = false)
    (grows : NeverCuts (layer.target offset) layers)
    (whole : offset + segment.length = Limits.clamp (reach (layer.target offset) layers))
    (inside : offset + layer.length ≤ 1514) : layer.length ≤ segment.length := by
  have target := target_of_header header offset
  have reached : offset + layer.length ≤ reach (layer.target offset) layers :=
    le_reach grows (Nat.le_of_eq target.symm) (by rw [Limits.wordBound]; omega)
  have clamped := Limits.le_clamp reached inside
  omega

/-- The readers find their way through the layers of a frame, up to the first one that they do not
read, and all headers that they find carry derived values. -/
theorem exists_walk {capacity : Nat} (stands : Stands front layers segment)
    (unset : ∀ layer ∈ layers, layer.Unset) (buildable : Buildable capacity offset layers)
    (honest : NeverMisleads layers) (grows : NeverCuts offset layers)
    (meets : reader.Meets (firstKind layers))
    (covers : reader = .udp ∨ reader = .tcp → Covers outer front)
    (whole : offset + segment.length = Limits.clamp (reach offset layers))
    (room : offset + 40 * layers.length ≤ 1514) :
    ∃ headers rest, Walk reader segment headers rest ∧ Consistent outer headers segment ∧
      headers.length ≤ layers.length + 1 := by
  -- The induction is on the layers that are left; it ends early at one without a reader of its own.
  induction layers generalizing reader segment outer front offset with
  | nil =>
    rcases meets with ends | ⟨kind, impossible, -⟩
    · exact exists_walk_of_ends ends
    · cases impossible
  | cons layer layers ih =>
    by_cases ends : reader.Ends
    · obtain ⟨headers, rest, walk, consistent, few⟩ :=
        @exists_walk_of_ends reader segment outer ends
      exact ⟨headers, rest, walk, consistent, Nat.le_trans few (Nat.le_add_left 1 _)⟩
    · obtain rfl := eq_ofKind_of_meets meets ends
      rcases exists_finds ends segment with ⟨plain, positive, short, header, finds, kind, width⟩
      have target := target_of_header plain offset
      rw [List.length_cons] at room
      rw [reach] at whole
      have fits : layer.length ≤ segment.length :=
        length_le_of_reach plain grows.2 whole (by omega)
      have small : segment.length < 65536 := by
        have most := (Limits.clamp_bounds (reach (layer.target offset) layers)).2
        omega
      rcases stands plain with ⟨written, behind⟩
      have placed : Written (.ofKind layer.kind) header layer front (firstKind layers) segment :=
        ⟨finds, kind, unset layer List.mem_cons_self, written positive fits⟩
      have length := (length_of_written placed small covers).trans width
      have meetsBehind := meets_behind placed honest.1 covers (segment.drop header.length)
      obtain ⟨headers, rest, walk, consistent, few⟩ :=
        @ih (Reader.behind header (segment.drop header.length)) (segment.drop header.length)
          (some header) (some layer) (layer.target offset) (by rw [length]; exact behind)
          (fun layer member => unset layer (List.mem_cons_of_mem _ member)) buildable.2.2 honest.2
          grows.2 meetsBehind (covers_behind placed)
          (by rw [List.length_drop, length]; omega) (by omega)
      -- Only now the kind of the next header is known, which a tag has to differ from.
      have derived : Derived outer header (headers.head?.map FoundHeader.kind) segment :=
        derived_of_written placed small covers (repeated_of_walk walk meetsBehind buildable.2.1)
      exact ⟨header :: headers, rest, .step finds (by rw [length]; exact fits) walk,
        ⟨derived, consistent⟩, Nat.succ_le_succ few⟩

end Walks

/-! ## The round trip -/

/-- A frame that starts with Ethernet, names no layer that does not follow and is not cut is
dissected into a text.  Unless this text has more layers than a description may have, every frame
that is encoded from it has the same bytes. -/
theorem Frame.decode_encode {config : Config} {frame : Frame}
    (success : (frame.encode config).result = .ok ()) (context : DecodeContext) :
    ∃ layers, ofDescription frame.text = .ok layers ∧
      (firstKind layers = some .ether → NeverMisleads layers → NeverCuts 0 layers →
        ∃ text, (context.decode (frame.encode config).state.data .ether).1 = .ok text ∧
          ((layerTexts text).length ≤ 31 →
            ∀ (other : Config) (again : Frame), again.text = text → 1514 ≤ again.capacity →
              (again.encode other).result = .ok () ∧
                (again.encode other).state.data = (frame.encode config).state.data)) := by
  rcases Frame.encode_eq_ok.1 ⟨success, rfl⟩ with ⟨layers, spelled, built⟩
  refine ⟨layers, spelled, fun ethernet honest grows => ?_⟩
  generalize (frame.encode config).state = final at built
  have used : frame.reset.dataLen ≤ frame.reset.capacity := Nat.zero_le _
  have reached : final.data.length = Limits.clamp (reach 0 layers) :=
    (length_data_of_build built used).trans (dataLen_of_build built used)
  rcases Limits.clamp_bounds (reach 0 layers) with ⟨least, most⟩
  rw [← reached] at least most
  -- Headers have at most 40 bytes, so that those of 31 layers end within the limits of Ethernet.
  have few := length_of_ofDescription spelled
  have buildable : Buildable frame.reset.capacity 0 layers :=
    (exists_build_iff used).1 ⟨final, built⟩
  obtain ⟨headers, rest, walk, consistent, bounded⟩ : ∃ headers rest,
      Walk .ether final.data headers rest ∧ Consistent none headers final.data ∧
        headers.length ≤ layers.length + 1 :=
    exists_walk (stands_of_build built rfl grows) (unset_of_ofDescription spelled) buildable honest
      grows (.inr ⟨.ether, ethernet, rfl⟩) (by simp)
      (by rw [Nat.zero_add, reached]) (by omega)
  have nonempty : final.data ≠ [] := List.ne_nil_of_length_pos (by omega)
  -- The text is shorter than what dissection may write: 4 · 1514 + 60 · 32 + 90 < 8192.
  have text := length_decodedText_le walk most
  refine ⟨decodedText headers final.data.length rest, decode_of_walk nonempty walk (by omega), ?_⟩
  intro shown other again described room
  exact (encode_decodedText_iff walk least most shown described room).2 consistent

/-- A tunnel with an unusual protocol inside, which comes back as bytes that nothing is known
about. -/
theorem Frame.decode_encode_tunnel :
    let tunnel := Frame.new "tunnel".toList
      ("Ether()/IPv4()/UDP()/Vxlan()/".toList ++ "Ether()/IPv6(proto=41)/Raw('\\x27')".toList) 10240
    ∃ text, decode (tunnel.encode {}).state.data .ether = .ok text ∧
      ((Frame.new [] text 1514).encode {}).result = .ok () ∧
      ((Frame.new [] text 1514).encode {}).state.data = (tunnel.encode {}).state.data := by
  intro tunnel
  have success : (tunnel.encode {}).result = .ok () := by decide +kernel
  have read : ofDescription tunnel.text = .ok [ether {}, ipv4 {} none, udp none none, vxlan {},
      ether {}, ipv6 {} (some (.custom 41)), raw [0x27]] := by decide +kernel
  have few : (decode (tunnel.encode {}).state.data .ether).toOption.any
      (fun text => decide ((layerTexts text).length ≤ 31)) = true := by decide +kernel
  rcases Frame.decode_encode success {} with ⟨layers, spelled, back⟩
  obtain rfl := Except.ok.inj (spelled.symm.trans read)
  rcases back rfl (by decide) (by decide) with ⟨text, decoded, again⟩
  have room : 1514 ≤ (Frame.new [] text 1514).capacity := Nat.le_of_eq List.length_replicate.symm
  rw [show decode (tunnel.encode {}).state.data .ether = .ok text from decoded] at few
  exact ⟨text, decoded, again (of_decide_eq_true few) {} _ rfl room⟩

end FrameText
