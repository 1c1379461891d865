import FrameText.Proofs.Marker
import FrameText.Proofs.Orderless

/-!
# Filling — how long a payload makes a frame, and what it leaves behind its start

A payload fills in two spans: on the way down the bytes up to its own end, on the way back all bytes
behind that end, whatever the layers behind it have written there.

1. `Layer.size_of_assignPayload` and `Layer.fill_of_assignPayload` read the size and the fill byte
   off the parameters, of which at most one is a size.
2. `Layer.filled_of_build` joins the two spans, `Layer.blank_of_build` is the case without a fill at
   the end of the description.
3. `Frame.filled_of_encode` says both for the first payload of a description, and how long the frame
   is if that is the last layer.
-/

namespace FrameText

open Bytes

namespace Layer

/-! ## Parameters -/

section Parameters

variable {layer final : PayloadSize × UInt8} {key value : Text} {pairs rest : List (Text × Text)}

/-- A parameter of a payload is a size, which is taken where there is none yet, or a fill byte. -/
theorem exists_wish_of_assignPayload {changed : PayloadSize × UInt8}
    (set : assignPayload layer key value = .ok changed) :
    (∃ size, wish? (Key.ofText? key) value = some (.inl size) ∧ layer.1 = .unchanged ∧
        changed = (size, layer.2)) ∨
      ∃ byte, wish? (Key.ofText? key) value = some (.inr byte) ∧ changed = (layer.1, byte) := by
  have granted := toOption_assignPayload layer key value
  rw [set] at granted
  obtain ⟨wish, asked, taken⟩ := Option.bind_eq_some_iff.1 granted.symm
  cases wish with
  | inl size =>
    obtain ⟨unsized, result⟩ := Option.ite_none_right_eq_some.1 taken
    exact .inl ⟨size, asked, unsized, (Option.some.inj result).symm⟩
  | inr byte => exact .inr ⟨byte, asked, (Option.some.inj taken).symm⟩

/-- The fill byte is the one that is given last. -/
theorem fill_of_assignPayload {defaults : PayloadSize × UInt8} {params : Text}
    (success : assignAll assignPayload defaults params = .ok final) :
    ∃ pairs, assignments params = .ok pairs ∧
      final.2 = (lastGiven .fill uint8 pairs).getD defaults.2 := by
  refine observe_of_assignAll
    (fun pairs layer => (lastGiven .fill uint8 pairs).getD layer.2) ?_ success
  intro layer key value changed rest set
  rw [getD_lastGiven_cons]
  rcases exists_wish_of_assignPayload set with ⟨size, asked, -, rfl⟩ | ⟨byte, asked, rfl⟩
  · have other : Key.ofText? key ≠ some .fill := fun same => by
      rw [same, wish?] at asked
      cases read : (uint8 [] value).toOption <;> rw [read] at asked <;> cases asked
    rw [if_neg other]
  · have same := eq_fill_of_wish asked
    rw [same, wish?, ← keyBlind_uint8 key [] value] at asked
    obtain ⟨_, read, result⟩ := Option.map_eq_some_iff.1 asked
    rw [if_pos same, read, Sum.inr.inj result, Option.getD_some]

/-- Of the parameters at most one is a size, and that is the size of the payload. -/
theorem size_of_assignPayload
    (done : pairs.foldlM (fun layer pair => assignPayload layer pair.1 pair.2) layer = .ok final) :
    (∀ pair ∈ pairs, ∀ size, wish? (Key.ofText? pair.1) pair.2 = some (.inl size) →
        layer.1 = .unchanged ∧ final.1 = size) ∧
      ((∀ pair ∈ pairs, ∀ size, wish? (Key.ofText? pair.1) pair.2 ≠ some (.inl size)) →
        final.1 = layer.1) := by
  induction pairs generalizing layer with
  | nil =>
    cases done
    exact ⟨fun pair member => (List.not_mem_nil member).elim, fun _ => rfl⟩
  | cons pair rest ih =>
    rw [List.foldlM_cons] at done
    obtain ⟨changed, set, others⟩ := bind_eq_ok.1 done
    obtain ⟨sized, unsized⟩ := ih others
    rcases exists_wish_of_assignPayload set with ⟨size, asked, free, rfl⟩ | ⟨byte, asked, rfl⟩
    · -- Behind a size there is no other one.
      have single : ∀ later ∈ rest, ∀ other,
          wish? (Key.ofText? later.1) later.2 ≠ some (.inl other) := fun later member other again =>
        ne_unchanged_of_wish asked (sized later member other again).1
      have taken : final.1 = size := unsized single
      refine ⟨fun later member other again => ?_, fun none => ?_⟩
      · rcases List.mem_cons.1 member with rfl | behind
        · rw [asked] at again
          cases again
          exact ⟨free, taken⟩
        · exact absurd again (single later behind other)
      · exact absurd asked (none pair List.mem_cons_self size)
    · refine ⟨fun later member other again => ?_, fun none => ?_⟩
      · rcases List.mem_cons.1 member with rfl | behind
        · rw [asked] at again
          cases again
        · exact sized later behind other again
      · exact unsized fun later member => none later (List.mem_cons_of_mem pair member)

end Parameters

/-! ## The two spans -/

variable {layer : Layer} {front rest : List Layer} {frame final inner : Frame} {size : PayloadSize}
  {fill : UInt8} {offset start stop : Nat}

/-- Layers with a header leave all bytes behind them alone. -/
theorem allSpare_of_headers (headers : ∀ layer ∈ front, layer.isPayload = false)
    (behind : reach offset front ≤ start) : AllSpare start stop offset front := by
  induction front generalizing offset with
  | nil => trivial
  | cons layer front ih =>
    have others : ∀ layer ∈ front, layer.isPayload = false := fun later member =>
      headers later (List.mem_cons_of_mem layer member)
    refine ⟨?_, ih others behind⟩
    have header := headers layer List.mem_cons_self
    have target : offset + layer.length ≤ start := by
      rw [reach, target_of_header header, reach_of_headers others] at behind
      omega
    cases layer with
    | payload _ _ => cases header
    | echo | tsc _ | raw _ => trivial
    | _ => exact .inl target

/-- What a payload has filled on the way down is kept. -/
theorem slice_early_of_build (built : build (payload size fill :: rest) frame = .ok final)
    (used : frame.dataLen ≤ frame.capacity)
    (grows : NeverBelow stop (size.target frame.dataLen) rest)
    (inside : stop ≤ size.target frame.dataLen) :
    slice final.buffer frame.dataLen (stop - frame.dataLen) =
      List.replicate (stop - frame.dataLen) fill := by
  rcases (build_cons_eq_ok used).1 built with ⟨room, -, inner, behind, rfl⟩
  rcases build_behind room used behind with ⟨innerUsed, -, -⟩
  rcases Nat.le_total stop frame.dataLen with short | long
  · rw [Nat.sub_eq_zero_of_le short]
    rfl
  have placed : (placed (payload size fill) frame).dataLen = size.target frame.dataLen :=
    dataLen_placed _ _
  -- Neither the layers behind nor the second span reach in front of this end.
  have kept : inner.buffer.take stop = (Layer.placed (payload size fill) frame).buffer.take stop :=
    take_build_of_neverBelow behind (used_placed room used) (by rw [placed]; exact grows)
      (by rw [placed]; exact inside)
  have settled : ((payload size fill).settledBuffer frame.dataLen (firstKind rest) inner.dataLen
      inner.buffer).take stop = inner.buffer.take stop := by
    rw [settledBuffer]
    split
    · rename_i longer
      exact take_overwrite inside (Nat.le_trans (Nat.le_of_lt longer.1) innerUsed)
    · rfl
  have window : frame.dataLen + (stop - frame.dataLen) ≤ stop := by omega
  have span : stop - frame.dataLen ≤ size.target frame.dataLen - frame.dataLen :=
    Nat.sub_le_sub_right inside _
  calc
    slice _ frame.dataLen (stop - frame.dataLen)
        = slice (inner.buffer.take stop) frame.dataLen (stop - frame.dataLen) := by
      rw [← slice_take window, settled]
    _ = slice (Layer.placed (payload size fill) frame).buffer frame.dataLen
          (stop - frame.dataLen) := by
      rw [kept, slice_take window]
    _ = slice (List.replicate (size.target frame.dataLen - frame.dataLen) fill) 0
          (stop - frame.dataLen) := by
      rw [buffer_placed, early, slice_overwrite_inside used (Nat.le_refl _)
        (by rw [List.length_replicate]; omega), Nat.sub_self]
    _ = List.replicate (stop - frame.dataLen) fill := by
      rw [slice_zero, List.take_replicate, Nat.min_eq_left span]

/-- The two spans meet. -/
theorem filled_of_build (built : build (payload size fill :: rest) frame = .ok final)
    (used : frame.dataLen ≤ frame.capacity)
    (grows : NeverCuts frame.dataLen (payload size fill :: rest))
    (fills : fill ≠ 0) :
    slice final.buffer frame.dataLen (final.dataLen - frame.dataLen) =
      List.replicate (final.dataLen - frame.dataLen) fill := by
  have short := (dataLen_bounds_of_build built used).2
  have word : 1514 < Limits.wordBound := by decide
  rcases Nat.le_total final.dataLen frame.dataLen with cut | long
  · rw [Nat.sub_eq_zero_of_le cut]
    rfl
  have target : frame.dataLen ≤ size.target frame.dataLen :=
    le_target grows.1 (Nat.le_refl _) (by omega)
  -- The spans meet at the end of the payload, or the first one covers the whole frame.
  generalize meet : min (size.target frame.dataLen) final.dataLen = middle
  have down : slice final.buffer frame.dataLen (middle - frame.dataLen) =
      List.replicate (middle - frame.dataLen) fill :=
    slice_early_of_build built used (neverBelow_of_neverCuts grows.2 (by omega) (by omega))
      (by omega)
  have up : slice final.buffer middle (final.dataLen - middle) =
      List.replicate (final.dataLen - middle) fill := by
    rcases Nat.le_total final.dataLen (size.target frame.dataLen) with covered | grown
    · rw [Nat.sub_eq_zero_of_le (by omega)]
      rfl
    · exact slice_of_fill built used fills (by omega) (by omega)
  have reached : frame.dataLen + (middle - frame.dataLen) = middle := by omega
  have count : final.dataLen - frame.dataLen =
      (middle - frame.dataLen) + (final.dataLen - middle) := by omega
  rw [count, ← slice_append_slice reached, down, up, List.replicate_add]

/-! ## Blank bytes -/

/-- Layers with a header write nothing behind their own end. -/
theorem blank_placeAll (built : build (front ++ rest) frame = .ok final)
    (used : frame.dataLen ≤ frame.capacity) (headers : ∀ layer ∈ front, layer.isPayload = false)
    (blank : ∀ byte ∈ frame.buffer.drop frame.dataLen, byte = 0) :
    ∀ byte ∈ (placeAll front frame).buffer.drop (placeAll front frame).dataLen, byte = 0 := by
  induction front generalizing frame final with
  | nil => exact blank
  | cons layer front ih =>
    obtain ⟨room, -, inner, behind, -⟩ := (build_cons_eq_ok used).1 built
    refine ih behind (used_placed room used)
      (fun later member => headers later (List.mem_cons_of_mem layer member)) ?_
    have target := target_of_header (headers layer List.mem_cons_self) frame.dataLen
    have early := layer.length_early frame.dataLen
    have kept : (layer.placed frame).buffer.drop (layer.placed frame).dataLen =
        frame.buffer.drop (layer.target frame.dataLen) := by
      rw [dataLen_placed, buffer_placed]
      exact drop_overwrite (by omega) used
    intro byte member
    rw [kept, ← Nat.add_sub_cancel' (show frame.dataLen ≤ layer.target frame.dataLen by omega),
      ← List.drop_drop] at member
    exact blank byte (List.mem_of_mem_drop member)

/-- A last payload that fills with zeros leaves the bytes behind it as they are. -/
theorem blank_of_build (built : build [payload size 0] frame = .ok final)
    (used : frame.dataLen ≤ frame.capacity)
    (blank : ∀ byte ∈ frame.buffer.drop frame.dataLen, byte = 0) :
    ∀ byte ∈ final.buffer.drop frame.dataLen, byte = 0 := by
  obtain ⟨room, -, inner, finished, rfl⟩ := (build_cons_eq_ok used).1 built
  obtain ⟨-, rfl⟩ := Frame.finish_eq_ok.1 finished
  intro byte member
  have unfilled : ¬ (size.target frame.dataLen <
      Limits.clamp (placed (payload size 0) frame).dataLen ∧ (0 : UInt8) ≠ 0) :=
    fun fills => fills.2 rfl
  simp only [settledBuffer, if_neg unfilled, buffer_placed, early] at member
  rw [drop_overwrite_self used, List.mem_append, ← List.drop_drop] at member
  rcases member with filled | behind
  · exact List.eq_of_mem_replicate filled
  · exact blank byte (List.mem_of_mem_drop behind)

/-! ## Behind the first payload -/

/-- The first payload of a frame fills it up to the end, if its byte is not zero or it is the last
layer. -/
theorem filled_of_headers (built : build (front ++ payload size fill :: rest) frame = .ok final)
    (used : frame.dataLen ≤ frame.capacity) (headers : ∀ layer ∈ front, layer.isPayload = false)
    (blank : ∀ byte ∈ frame.buffer.drop frame.dataLen, byte = 0)
    (grows : NeverCuts (reach frame.dataLen front) (payload size fill :: rest))
    (whole : fill ≠ 0 ∨ rest = []) :
    ∀ byte ∈ final.data.drop (reach frame.dataLen front), byte = fill := by
  -- The headers in front change nothing behind the start of the payload on the way back.
  obtain ⟨inner, innerBuilt, length, innerUsed, -⟩ := exists_inner_of_build built used
  have start := dataLen_placeAll front frame
  have outer : final.data.drop (reach frame.dataLen front) =
      slice inner.buffer (reach frame.dataLen front) (final.dataLen - reach frame.dataLen front) := by
    rw [Frame.data, List.drop_take]
    exact slice_of_inner built used innerBuilt rfl
      (allSpare_of_headers headers (Nat.le_refl _))
  rw [outer]
  by_cases zero : fill = 0
  · obtain rfl := whole.resolve_left (not_not.2 zero)
    subst zero
    have behind := blank_of_build innerBuilt innerUsed (blank_placeAll built used headers blank)
    intro byte member
    rw [start] at behind
    exact behind byte (List.mem_of_mem_take member)
  · rw [← start] at grows ⊢
    rw [← length, filled_of_build innerBuilt innerUsed grows zero]
    exact fun byte => List.eq_of_mem_replicate

/-- The length of a frame that ends with a payload. -/
theorem dataLen_of_last (built : build (front ++ [payload size fill]) frame = .ok final)
    (used : frame.dataLen ≤ frame.capacity) :
    final.dataLen = Limits.clamp (size.target (reach frame.dataLen front)) := by
  rw [dataLen_of_build built used, reach_append]
  rfl

end Layer

/-! ## Lengths in numbers -/

/-- A frame ends at the limit of Ethernet that is nearest. -/
theorem Limits.clamp_eq (length : Nat) : clamp length = max 60 (min length 1514) := by
  have bounds : minFrameLength = 60 ∧ maxFrameLength = 1514 := ⟨rfl, rfl⟩
  unfold clamp
  split
  · omega
  · split <;> omega

namespace PayloadSize

/-- A size on the wire is within the limits of Ethernet. -/
theorem clamp_wire (length : Nat) {offset : Nat} :
    max 60 (min ((wire length).target offset) 1514) = max 64 (min length 1518) - 4 := by
  show max 60 (min (max 64 (min length 1518) - 4) 1514) = max 64 (min length 1518) - 4
  omega

/-- The largest length that can be counted is too long for a frame. -/
theorem clamp_append (offset length : Nat) :
    max 60 (min ((append length).target offset) 1514) = max 60 (min (offset + length) 1514) := by
  have large : 1514 ≤ Limits.wordBound - 1 := by decide
  show max 60 (min (min (offset + length) (Limits.wordBound - 1)) 1514) = _
  omega

end PayloadSize

/-- What is asked for as a size is asked for under one of three keys. -/
theorem Layer.key_of_wish {key : Option Key} {value : Text} {size : PayloadSize}
    (wish : wish? key value = some (.inl size)) :
    key ∈ [some .size, some .len, some .append] := by
  unfold wish? at wish
  split at wish
  · exact List.mem_cons_self
  · exact List.mem_cons_of_mem _ List.mem_cons_self
  · exact List.mem_cons_of_mem _ (List.mem_cons_of_mem _ List.mem_cons_self)
  · obtain ⟨_, -, impossible⟩ := Option.map_eq_some_iff.1 wish
    cases impossible
  · cases wish

/-! ## Descriptions -/

namespace LayerToken

variable {token : LayerToken} {size : PayloadSize} {fill : UInt8}

theorem fill_of_payload (kind : token.kind = .payload)
    (read : Layer.ofToken token = .ok (.payload size fill)) :
    fill = token.given .fill uint8 0x25 := by
  rw [Layer.ofToken, kind] at read
  obtain ⟨layer, set, result⟩ := map_eq_ok.1 read
  cases result
  obtain ⟨pairs, split, given⟩ := Layer.fill_of_assignPayload set
  rw [given, LayerToken.given, LayerToken.pairs, split]
  rfl

theorem size_of_payload (kind : token.kind = .payload)
    (read : Layer.ofToken token = .ok (.payload size fill)) :
    (∀ pair ∈ token.pairs, ∀ asked,
        Layer.wish? (Key.ofText? pair.1) pair.2 = some (.inl asked) → size = asked) ∧
      ((∀ pair ∈ token.pairs, ∀ asked,
        Layer.wish? (Key.ofText? pair.1) pair.2 ≠ some (.inl asked)) → size = .unchanged) := by
  rw [Layer.ofToken, kind] at read
  obtain ⟨layer, set, result⟩ := map_eq_ok.1 read
  cases result
  obtain ⟨pairs, split, done⟩ := bind_eq_ok.1 set
  obtain ⟨sized, unsized⟩ := Layer.size_of_assignPayload done
  rw [LayerToken.pairs, split]
  exact ⟨fun pair member asked wish => (sized pair member asked wish).2, unsized⟩

/-- A size that is given as a number of this form is the size of the payload. -/
theorem size_of_pair {key value : Text} {length : Nat} {form : Nat → PayloadSize}
    (kind : token.kind = .payload) (read : Layer.ofToken token = .ok (.payload size fill))
    (member : (key, value) ∈ token.pairs) (number : number Limits.wordBound key value = .ok length)
    (wish : Layer.wish? (Key.ofText? key) value =
      (FrameText.number Limits.wordBound [] value).toOption.map fun length => .inl (form length)) :
    size = form length := by
  refine (size_of_payload kind read).1 (key, value) member (form length) ?_
  rw [wish, ← keyBlind_number Limits.wordBound key [] value, number]
  rfl

/-- A token of this kind is read as a payload. -/
theorem exists_payload {layer : Layer} (kind : token.kind = .payload)
    (read : Layer.ofToken token = .ok layer) : ∃ size fill, layer = .payload size fill := by
  rw [Layer.ofToken, kind] at read
  obtain ⟨parameters, -, rfl⟩ := map_eq_ok.1 read
  exact ⟨parameters.1, parameters.2, rfl⟩

end LayerToken

open Layer in
/-- Behind the start of its first payload an encoded frame that no payload cuts has nothing but the
fill byte of that payload, if that byte is not zero or the payload is the last layer.  If it is the
last layer, its size or the bytes in front of it say how long the frame is. -/
theorem Frame.filled_of_encode {config : Config} {frame : Frame}
    (success : (frame.encode config).result = .ok ()) :
    ∃ final tokens layers, (frame.encode config).state = final ∧
      (Encoding.scan config.verbose frame.text).1 = .ok tokens ∧
      tokens.mapM Layer.ofToken = .ok layers ∧
      (NeverCuts 0 layers →
        ∀ before token after start fill, tokens = before ++ token :: after →
          (∀ outer ∈ before, outer.kind ≠ .payload) → token.kind = .payload →
          start = LayerToken.start before → fill = token.given .fill uint8 0x25 →
          (fill ≠ 0 ∨ after = [] → ∀ byte ∈ final.data.drop start, byte = fill) ∧
            (after = [] →
              (∀ key value length, (key, value) ∈ token.pairs →
                number Limits.wordBound key value = .ok length →
                (Key.ofText? key = some .size ∨ Key.ofText? key = some .len →
                    final.dataLen = max 64 (min length 1518) - 4) ∧
                  (Key.ofText? key = some .append →
                    final.dataLen = max 60 (min (start + length) 1514))) ∧
              ((∀ pair ∈ token.pairs,
                  Key.ofText? pair.1 ∉ [some .size, some .len, some .append]) →
                final.dataLen = max 60 (min start 1514)))) := by
  obtain ⟨layers, spelled, built⟩ := Frame.encode_eq_ok.1 ⟨success, rfl⟩
  obtain ⟨tokens, scanned, read⟩ := bind_eq_ok.1 spelled
  refine ⟨_, tokens, layers, rfl, (scan_result config.verbose _).trans scanned, read, ?_⟩
  rintro grows before token after start fill rfl headers kind place given
  generalize (frame.encode config).state = final at built ⊢
  obtain ⟨front, others, frontRead, othersRead, rfl⟩ := mapM_append_eq_ok.1 read
  obtain ⟨layer, back, layerRead, backRead, rfl⟩ := mapM_cons_eq_ok.1 othersRead
  obtain ⟨size, byte, rfl⟩ := LayerToken.exists_payload kind layerRead
  obtain rfl : byte = fill := (LayerToken.fill_of_payload kind layerRead).trans given.symm
  have used : frame.reset.dataLen ≤ frame.reset.capacity := Nat.zero_le _
  have frontHeaders := LayerToken.isPayload_of_mapM frontRead headers
  have reached : reach frame.reset.dataLen front = start := by
    rw [reach_of_headers frontHeaders, LayerToken.start_of_mapM frontRead, place]
    exact Nat.zero_add _
  constructor
  · intro whole
    -- Where nothing is filled in, the bytes are those of the buffer at the start.
    have blank : ∀ byte ∈ frame.reset.buffer.drop frame.reset.dataLen, byte = 0 :=
      fun byte member => List.eq_of_mem_replicate (List.mem_of_mem_drop member)
    rw [← reached]
    refine filled_of_headers built used frontHeaders blank (neverCuts_append_iff.1 grows).2 ?_
    rcases whole with nonzero | rfl
    · exact .inl nonzero
    · cases backRead
      exact .inr rfl
  · rintro rfl
    cases backRead
    have ends := dataLen_of_last built used
    rw [reached, Limits.clamp_eq] at ends
    refine ⟨fun key value length member number => ⟨?_, ?_⟩, fun unsized => ?_⟩
    · intro wire
      have wish : wish? (Key.ofText? key) value =
          (FrameText.number Limits.wordBound [] value).toOption.map fun length =>
            .inl (.wire length) := by
        rcases wire with named | named <;> rw [named] <;> rfl
      rw [ends, LayerToken.size_of_pair kind layerRead member number wish]
      exact PayloadSize.clamp_wire length
    · intro append
      have wish : wish? (Key.ofText? key) value =
          (FrameText.number Limits.wordBound [] value).toOption.map fun length =>
            .inl (.append length) := by
        rw [append]
        rfl
      rw [ends, LayerToken.size_of_pair kind layerRead member number wish]
      exact PayloadSize.clamp_append start length
    · have unchanged : size = .unchanged := by
        refine (LayerToken.size_of_payload kind layerRead).2 fun pair member asked wish => ?_
        exact unsized pair member (key_of_wish wish)
      rw [ends, unchanged]
      rfl

open Layer in
/-- A payload whose fill covers the layers behind it, and one that sizes a frame without filling
it. -/
theorem Frame.filled_of_encode_covered :
    let covered := Frame.new []
      "Ether()/Payload(append=4,fill=0xAB)/IPv4()/UDP()/Payload(fill=0)".toList 80
    let sized := Frame.new [] "Ether()/IPv6()/Payload(fill=0,len=90)".toList 200
    ((covered.encode {}).result = .ok () ∧
        ∀ byte ∈ (covered.encode {}).state.data.drop 14, byte = 0xAB) ∧
      (sized.encode {}).result = .ok () ∧ (sized.encode {}).state.dataLen = 86 ∧
        ∀ byte ∈ (sized.encode {}).state.data.drop 54, byte = 0 := by
  intro covered sized
  let link : List LayerToken := [⟨.ether, "()".toList⟩]
  let network : List LayerToken := [⟨.ether, "()".toList⟩, ⟨.ipv6, "()".toList⟩]
  let filler : LayerToken := ⟨.payload, "(append=4,fill=0xAB)".toList⟩
  let behind : List LayerToken :=
    [⟨.ipv4, "()".toList⟩, ⟨.udp, "()".toList⟩, ⟨.payload, "(fill=0)".toList⟩]
  let sizer : LayerToken := ⟨.payload, "(fill=0,len=90)".toList⟩
  have coveredSuccess : (covered.encode {}).result = .ok () := by decide +kernel
  have sizedSuccess : (sized.encode {}).result = .ok () := by decide +kernel
  have coveredScan : (Encoding.scan false covered.text).1 = .ok (link ++ filler :: behind) := by
    decide +kernel
  have sizedScan : (Encoding.scan false sized.text).1 = .ok (network ++ [sizer]) := by
    decide +kernel
  have coveredRead : (link ++ filler :: behind).mapM Layer.ofToken =
      .ok [ether {}, payload (.append 4) 0xAB, ipv4 {} none, udp none none,
        payload .unchanged 0] := by
    decide +kernel
  have sizedRead : (network ++ [sizer]).mapM Layer.ofToken =
      .ok [ether {}, ipv6 {} none, payload (.wire 90) 0] := by
    decide +kernel
  have asked : ("len".toList, "90".toList) ∈ sizer.pairs := by decide +kernel
  have ninety : number Limits.wordBound "len".toList "90".toList = .ok 90 := by decide +kernel
  obtain ⟨_, tokens, layers, rfl, scanned, read, filled⟩ := Frame.filled_of_encode coveredSuccess
  obtain rfl := Except.ok.inj (scanned.symm.trans coveredScan)
  obtain rfl := Except.ok.inj (read.symm.trans coveredRead)
  have early := filled (by decide) link filler behind 14 0xAB rfl (by decide) rfl rfl
    (by decide +kernel)
  obtain ⟨_, tokens, layers, rfl, scanned, read, filled⟩ := Frame.filled_of_encode sizedSuccess
  obtain rfl := Except.ok.inj (scanned.symm.trans sizedScan)
  obtain rfl := Except.ok.inj (read.symm.trans sizedRead)
  have last := filled (by decide) network sizer [] 54 0 rfl (by decide) rfl rfl (by decide +kernel)
  have length := ((last.2 rfl).1 _ _ 90 asked ninety).1 (.inr (by decide +kernel))
  exact ⟨⟨coveredSuccess, early.1 (.inl (by decide))⟩, sizedSuccess, length, last.1 (.inr rfl)⟩

end FrameText
