import FrameText.Proofs.FlatLayout
import FrameText.Proofs.Records
import Mathlib.Control.Monad.Basic

/-!
# Marker — what stands at the recorded offset of the timestamp marker

A marker is complete on the way down.  The layers behind it can only cut it off.  The layers in
front of it write on the way back: a header over itself and over the checksum behind it, a payload
over everything behind its own end, markers included.

1. `Layer.Spares` says which window a layer leaves alone on the way back, and
   `Layer.slice_of_inner` carries a window through all layers in front.
2. `Layer.slice_of_fill` is what a payload makes of the bytes behind it.
3. `Frame.marked_of_encode` says when the marker stands where it was recorded.
-/

namespace FrameText

open Bytes

/-! ## Windows that the way back leaves alone -/

namespace Layer

/-- Whether a layer that was placed behind `offset` bytes leaves the bytes from `start` up to `stop`
alone on the way back, but for the checksum of the layer behind it. -/
def Spares (start stop : Nat) (layer : Layer) (offset : Nat) : Prop :=
  match layer with
  | payload size fill => fill = 0 ∨ stop ≤ size.target offset
  | echo | tsc _ | raw _ => True
  | _ => offset + layer.length ≤ start ∨ stop ≤ offset

instance decidableSpares (start stop offset : Nat) :
    (layer : Layer) → Decidable (layer.Spares start stop offset)
  | payload size fill => inferInstanceAs (Decidable (fill = 0 ∨ stop ≤ size.target offset))
  | echo | tsc _ | raw _ => inferInstanceAs (Decidable True)
  | ether _ | vlan _ _ | ipv4 _ _ | ipv6 _ _ | udp _ _ | tcp _ | vxlan _ =>
    inferInstanceAs (Decidable (_ ∨ _))

/-- Whether all layers leave a window alone. -/
def AllSpare (start stop : Nat) : Nat → List Layer → Prop
  | _, [] => True
  | offset, layer :: rest =>
    layer.Spares start stop offset ∧ AllSpare start stop (layer.target offset) rest

instance decidableAllSpare (start stop : Nat) : (offset : Nat) → (layers : List Layer) →
    Decidable (AllSpare start stop offset layers)
  | _, [] => inferInstanceAs (Decidable True)
  | offset, layer :: rest =>
    have := decidableAllSpare start stop (layer.target offset) rest
    inferInstanceAs (Decidable (_ ∧ _))

/-- Whether a payload fills what the layers behind it make of the frame. -/
def fills : Layer → Bool
  | payload _ fill => decide (fill ≠ 0)
  | _ => false

variable {layer behind : Layer} {layers front rest : List Layer} {frame final inner : Frame}
  {offset start count dataLen : Nat} {next : Option LayerKind} {buffer : Bytes}

/-- A window beside the checksum that is filled in. -/
theorem slice_sealTail {sealing : Option (Nat × (Bytes → UInt16))} {split : Nat}
    (beside : ∀ field sum, sealing = some (field, sum) →
      start + count ≤ split + field ∨ split + field + 2 ≤ start)
    (used : dataLen ≤ buffer.length) :
    slice (buffer.take split ++ sealTail sealing (dataLen - split) (buffer.drop split))
      start count = slice buffer start count := by
  match sealing with
  | none => rw [sealTail, List.take_append_drop]
  | some (field, sum) =>
    by_cases short : dataLen - split < field + 2
    · rw [sealTail, if_pos short, List.take_append_drop]
    · have outside := beside field sum rfl
      rw [sealTail, if_neg short, ← overwrite_add (by omega),
        slice_overwrite_of_disjoint (by omega) (by rw [length_ofUInt16]; exact outside)]

/-- A window that a layer spares is the same after its way back. -/
theorem slice_settledBuffer (spared : layer.Spares start (start + count) offset)
    (beside : ∀ field sum, layer.sealing? next = some (field, sum) →
      start + count ≤ offset + layer.length + field ∨ offset + layer.length + field + 2 ≤ start)
    (room : offset + layer.length ≤ buffer.length) (used : dataLen ≤ buffer.length) :
    slice (layer.settledBuffer offset next dataLen buffer) start count =
      slice buffer start count := by
  cases written : layer.headerBytes next (dataLen - offset) with
  | some header =>
    have window : start + count ≤ offset ∨ offset + layer.length ≤ start := by
      cases layer with
      | echo | tsc _ | raw _ | payload _ _ => cases written
      | _ => exact Or.symm spared
    have width := length_headerBytes written
    have front : (buffer.take (offset + layer.length)).length = offset + layer.length := by
      rw [List.length_take, Nat.min_eq_left room]
    rw [settledBuffer_of_headerBytes width.symm written room, slice_overwrite_of_disjoint
      (by rw [List.length_append]; omega) (by rw [width]; exact window),
      slice_sealTail beside used]
  | none =>
    cases layer with
    | payload size fill =>
      rw [settledBuffer]
      split
      · rename_i grown
        have behind := Or.resolve_left spared grown.2
        exact slice_overwrite_of_disjoint (by omega) (.inl behind)
      · rfl
    | echo | tsc _ | raw _ =>
      rw [settledBuffer_eq rfl, written, Option.getD_none]
      simp only [sealing?, segmentSum?, sealTail, take_append_slice_append_drop]
    | _ => cases written

/-- A layer that spares a window has its checksum beside it, whoever fills it in. -/
theorem beside_of_sealing {field : Nat} {sum : Bytes → UInt16}
    (plan : layer.sealing? (some behind.kind) = some (field, sum)) {stop : Nat}
    (spared : behind.Spares start stop (layer.target offset)) :
    stop ≤ offset + layer.length + field ∨ offset + layer.length + field + 2 ≤ start := by
  have inside := add_two_le_of_sealing plan
  have target : layer.target offset = offset + layer.length := by
    cases layer with
    | payload _ _ => cases plan
    | _ => rfl
  rcases transportField_of_sealing plan with ⟨wire, found⟩
  have window : layer.target offset + behind.length ≤ start ∨ stop ≤ layer.target offset := by
    cases behind with
    | udp _ _ => exact spared
    | tcp _ => exact spared
    | vlan tag _ => cases tag <;> cases found
    | _ => cases found
  omega

/-- A window that all layers in front spare is the same in the finished frame as in the one that the
layers behind leave. -/
theorem slice_of_inner (built : build (front ++ rest) frame = .ok final)
    (used : frame.dataLen ≤ frame.capacity)
    (behind : build rest (placeAll front frame) = .ok inner)
    (unsealed : transportField? (firstKind rest) = none)
    (spared : AllSpare start (start + count) frame.dataLen front) :
    slice final.buffer start count = slice inner.buffer start count := by
  induction front generalizing frame final with
  | nil =>
    cases behind.symm.trans built
    rfl
  | cons layer front ih =>
    rcases (build_cons_eq_ok used).1 built with ⟨room, -, middle, middleBuilt, rfl⟩
    rcases build_behind room used middleBuilt with ⟨middleUsed, -, header⟩
    have others := ih middleBuilt (used_placed room used) behind
      (by rw [dataLen_placed]; exact spared.2)
    refine (slice_settledBuffer spared.1 ?_ header middleUsed).trans others
    intro field sum plan
    cases front with
    | nil =>
      rcases transportField_of_sealing plan with ⟨wire, found⟩
      cases found.symm.trans unsealed
    | cons next front => exact beside_of_sealing plan spared.2.1

/-- Where no payload cuts the frame and none fills it, the layers spare what is behind them. -/
theorem allSpare_of_neverCuts {stop : Nat} (grows : NeverCuts offset layers)
    (small : reach offset layers + 1 < Limits.wordBound)
    (blank : ∀ layer ∈ layers, layer.fills = false) (behind : reach offset layers ≤ start) :
    AllSpare start stop offset layers := by
  induction layers generalizing offset with
  | nil => trivial
  | cons layer rest ih =>
    have target := Nat.le_trans (le_reach_of_neverCuts grows.2 small) behind
    refine ⟨?_, ih grows.2 small (fun layer member => blank layer (List.mem_cons_of_mem _ member))
      behind⟩
    cases layer with
    | payload size fill =>
      have zero := of_decide_eq_false (blank _ List.mem_cons_self)
      exact .inl (Classical.not_not.1 zero)
    | echo | tsc _ | raw _ => trivial
    | _ => exact .inl target

/-! ## Fills -/

/-- Behind its own end a payload leaves nothing but its fill byte. -/
theorem slice_of_fill {size : PayloadSize} {fill : UInt8}
    (built : build (payload size fill :: rest) frame = .ok final)
    (used : frame.dataLen ≤ frame.capacity) (fills : fill ≠ 0)
    (behind : size.target frame.dataLen ≤ start) (inside : start + count ≤ final.dataLen) :
    slice final.buffer start count = List.replicate count fill := by
  rcases (build_cons_eq_ok used).1 built with ⟨room, -, inner, innerBuilt, rfl⟩
  rcases build_behind room used innerBuilt with ⟨innerUsed, -, -⟩
  have inside : start + count ≤ inner.dataLen := inside
  rw [Frame.capacity] at innerUsed
  show slice ((payload size fill).settledBuffer frame.dataLen (firstKind rest) inner.dataLen
    inner.buffer) start count = _
  rw [settledBuffer]
  by_cases grown : size.target frame.dataLen < inner.dataLen
  · rw [if_pos ⟨grown, fills⟩,
      slice_overwrite_inside (by omega) behind (by rw [List.length_replicate]; omega), slice,
      List.drop_replicate, List.take_replicate, Nat.min_eq_left (by omega)]
  · have none : count = 0 := by omega
    rw [none]
    rfl

/-- Behind a payload that fills, the finished frame has one byte only, unless a payload cuts the
frame in between. -/
theorem exists_fill_of_build {back : List Layer}
    (built : build (front ++ back) frame = .ok final) (used : frame.dataLen ≤ frame.capacity)
    (grows : NeverCuts frame.dataLen front)
    (small : reach frame.dataLen front + 1 < Limits.wordBound)
    (found : ∃ layer ∈ front, layer.fills = true) (behind : reach frame.dataLen front ≤ start)
    (inside : start + count ≤ final.dataLen) :
    ∃ fill, slice final.buffer start count = List.replicate count fill := by
  -- The outermost payload that fills is the last one to write.
  obtain ⟨outer, first⟩ := Option.isSome_iff_exists.1 (List.find?_isSome.2 found)
  obtain ⟨outerFills, others, more, rfl, blank⟩ := List.find?_eq_some_iff_append.1 first
  obtain ⟨othersGrow, moreGrow⟩ := neverCuts_append_iff.1 grows
  rw [reach_append] at small behind
  obtain ⟨size, fill, rfl⟩ : ∃ size fill, outer = payload size fill := by
    cases outer with
    | payload size fill => exact ⟨size, fill, rfl⟩
    | _ => cases outerFills
  have placed := Nat.le_trans (le_reach_of_neverCuts moreGrow small) behind
  have target := Nat.le_trans (le_reach_of_neverCuts moreGrow.2 small) behind
  rw [List.append_assoc] at built
  obtain ⟨inner, innerBuilt, length, innerUsed, -⟩ := exists_inner_of_build built used
  have spared : AllSpare start (start + count) frame.dataLen others := by
    refine allSpare_of_neverCuts othersGrow ?_ (fun layer member => ?_) placed
    · exact Nat.lt_of_le_of_lt (Nat.add_le_add_right (le_reach_of_neverCuts moreGrow small) 1) small
    · simpa using blank layer member
  have same := slice_of_inner built used innerBuilt rfl spared
  have nonzero : fill ≠ 0 := of_decide_eq_true outerFills
  refine ⟨fill, same.trans (slice_of_fill innerBuilt innerUsed nonzero ?_ ?_)⟩
  · rw [dataLen_placeAll]
    exact target
  · rw [length]
    exact inside

end Layer

/-! ## The marker -/

/-- Whether a marker with this counter stands at an offset. -/
def Frame.Marked (frame : Frame) (offset : Nat) (counter : UInt64) : Prop :=
  offset + 12 ≤ frame.dataLen ∧
    slice frame.data offset 12 = [0x74, 0x73, 0x63, 0x3D] ++ beBytes 8 counter.toNat

instance (frame : Frame) (offset : Nat) (counter : UInt64) :
    Decidable (frame.Marked offset counter) :=
  inferInstanceAs (Decidable (_ ∧ _))

namespace Layer

variable {front back : List Layer} {marker : Timestamp} {frame final : Frame} {offset : Nat}

/-- A marker stands in the finished frame if it lies within the limits of Ethernet, no layer behind
it ends in front of its end, and all layers in front of it spare it. -/
theorem marked_of_build (built : build (front ++ tsc marker :: back) frame = .ok final)
    (used : frame.dataLen ≤ frame.capacity) (place : offset = reach frame.dataLen front)
    (short : offset + 12 ≤ 1514) (above : NeverBelow (offset + 12) (offset + 12) back)
    (spared : AllSpare offset (offset + 12) frame.dataLen front) :
    final.Marked offset marker.value := by
  obtain ⟨inner, innerBuilt, length, innerUsed, -⟩ := exists_inner_of_build built used
  have start : (placeAll front frame).dataLen = offset := (dataLen_placeAll _ _).trans place.symm
  have reached : offset + 12 ≤ reach (offset + 12) back :=
    le_reach_of_neverBelow above (Nat.le_refl _)
  have inside : offset + 12 ≤ final.dataLen := by
    rw [dataLen_of_build built used, reach_append, ← place]
    exact Limits.le_clamp reached short
  refine ⟨inside, ?_⟩
  calc
    slice final.data offset 12 = slice final.buffer offset 12 := by
      rw [Frame.data, slice_take inside]
    _ = slice inner.buffer offset 12 := slice_of_inner built used innerBuilt rfl spared
    _ = (tsc marker).bytes (firstKind back) (inner.dataLen - offset) := by
      have stands := take_drop_of_build rfl innerUsed innerBuilt (.inr (by
        rw [start]
        exact above))
      rw [start] at stands
      exact stands
    _ = [0x74, 0x73, 0x63, 0x3D] ++ beBytes 8 marker.value.toNat := rfl

/-- A payload that does not fill spares what is placed behind its cut, and one behind the marker may
make the frame longer. -/
example :
    let front := [ether {}, payload (.append 100) 0, payload (.wire 64) 0]
    ¬ NeverCuts 0 front ∧ reach 0 front = 60 ∧ AllSpare 60 72 0 front ∧
      NeverBelow 72 72 [payload (.wire 90) 0x25] := by
  decide

/-- Without cuts, exactly the limits of Ethernet and a payload in front that fills can keep a marker
from standing in the finished frame. -/
theorem marked_of_build_iff (built : build (front ++ tsc marker :: back) frame = .ok final)
    (used : frame.dataLen ≤ frame.capacity) (place : offset = reach frame.dataLen front)
    (frontGrows : NeverCuts frame.dataLen front) (backGrows : NeverCuts (offset + 12) back) :
    final.Marked offset marker.value ↔
      offset + 12 ≤ 1514 ∧ ∀ layer ∈ front, layer.fills = false := by
  have least : 1514 < Limits.wordBound - 1 := by decide
  constructor
  · rintro ⟨inside, stands⟩
    have short : offset + 12 ≤ 1514 :=
      Nat.le_trans inside (dataLen_bounds_of_build built used).2
    refine ⟨short, fun layer member => Bool.eq_false_iff.2 fun fills => ?_⟩
    -- A filled window has the same byte everywhere, but the marker starts with two different ones.
    obtain ⟨fill, filled⟩ := exists_fill_of_build built used frontGrows (by omega)
      ⟨layer, member, fills⟩ (Nat.le_of_eq place.symm) inside
    rw [Frame.data, slice_take inside, filled] at stands
    injection stands with first others
    injection others with second
    exact absurd (first.symm.trans second) (by decide)
  · rintro ⟨short, blank⟩
    refine marked_of_build built used place short ?_ ?_
    · exact neverBelow_of_neverCuts backGrows (Nat.le_refl _) (by omega)
    · exact allSpare_of_neverCuts frontGrows (by omega) blank (Nat.le_of_eq place.symm)

end Layer

open Layer in
/-- The recorded offset is where the last marker was placed.  There the marker stands with the
counter that is given for it, if it lies within the limits of Ethernet, no layer behind it ends in
front of its end and all layers in front of it spare it.  Where no payload cuts the frame, it stands
there exactly if it lies within the limits and no payload in front of it fills. -/
theorem Frame.marked_of_encode {config : Config} {frame : Frame} {offset : Nat}
    (success : (frame.encode config).result = .ok ())
    (recorded : (frame.encode config).state.tscOffset = some offset) :
    ∃ final before token after front back, (frame.encode config).state = final ∧
      (Encoding.scan config.verbose frame.text).1 = .ok (before ++ token :: after) ∧
      token.kind = .tsc ∧ (∀ later ∈ after, later.kind ≠ .tsc) ∧
      before.mapM Layer.ofToken = .ok front ∧ after.mapM Layer.ofToken = .ok back ∧
      offset = reach 0 front ∧
      (offset + 12 ≤ 1514 → NeverBelow (offset + 12) (offset + 12) back →
        AllSpare offset (offset + 12) 0 front →
          final.Marked offset (token.given .val uint64 0)) ∧
      (NeverCuts 0 front → NeverCuts (offset + 12) back →
        (final.Marked offset (token.given .val uint64 0) ↔
          offset + 12 ≤ 1514 ∧ ∀ layer ∈ front, layer.fills = false)) := by
  rcases Frame.encode_eq_ok.1 ⟨success, rfl⟩ with ⟨layers, spelled, built⟩
  rcases bind_eq_ok.1 spelled with ⟨tokens, scanned, read⟩
  generalize (frame.encode config).state = final at built recorded
  have used : frame.reset.dataLen ≤ frame.reset.capacity := Nat.zero_le _
  rw [(records_of_build built used).1] at recorded
  rcases exists_of_tscOffset recorded with ⟨impossible, -⟩ | ⟨front, marker, back, rfl, last, place⟩
  · cases impossible
  obtain ⟨before, token, after, rfl, frontRead, markerRead, backRead⟩ := exists_split_of_mapM read
  have kind : token.kind = .tsc := (LayerToken.kind_of_ofToken markerRead).symm
  have latest : ∀ later ∈ after, later.kind ≠ .tsc := by
    intro later member same
    have named := List.mem_map_of_mem (f := LayerToken.kind) member
    rw [← LayerToken.kinds_of_mapM backRead] at named
    obtain ⟨layer, placed, layerKind⟩ := List.mem_map.1 named
    exact last layer placed (layerKind.trans same)
  -- The counter of the marker is the one that is given last.
  have counter : marker.value = token.given .val uint64 0 := LayerToken.value_of_tsc kind markerRead
  refine ⟨final, before, token, after, front, back, rfl,
    (scan_result config.verbose _).trans scanned, kind, latest, frontRead, backRead, place, ?_⟩
  rw [← counter]
  exact ⟨marked_of_build built used place, marked_of_build_iff built used place⟩

open Layer in
/-- A marker behind a payload that does not fill, with a counter that is given twice. -/
theorem Frame.marked_of_encode_behind :
    let frame := Frame.new [] "Payload(append=4,fill=0)/TSC(val=7,VAL=0x0102)/Ether()".toList 60
    (frame.encode {}).result = .ok () ∧ (frame.encode {}).state.tscOffset = some 4 ∧
      (frame.encode {}).state.Marked 4 258 := by
  intro frame
  let filler : LayerToken := ⟨.payload, "(append=4,fill=0)".toList⟩
  let marker : LayerToken := ⟨.tsc, "(val=7,VAL=0x0102)".toList⟩
  let last : LayerToken := ⟨.ether, "()".toList⟩
  have success : (frame.encode {}).result = .ok () := by decide +kernel
  have recorded : (frame.encode {}).state.tscOffset = some 4 := by decide +kernel
  have scanned : (Encoding.scan false frame.text).1 = .ok [filler, marker, last] := by
    decide +kernel
  have frontLayers : [filler].mapM Layer.ofToken = .ok [payload (.append 4) 0] := by
    decide +kernel
  have backLayers : [last].mapM Layer.ofToken = .ok [ether {}] := by decide +kernel
  rcases Frame.marked_of_encode success recorded with ⟨final, before, token, after, front, back,
    rfl, found, kind, -, frontRead, backRead, -, -, marked⟩
  have split : [filler, marker, last] = before ++ token :: after :=
    Except.ok.inj (scanned.symm.trans found)
  -- The token in the middle is the only marker.
  obtain ⟨rfl, rfl, rfl⟩ : before = [filler] ∧ token = marker ∧ after = [last] := by
    rcases before with _ | ⟨first, _ | ⟨second, _ | ⟨third, before⟩⟩⟩
    all_goals
      simp only [List.nil_append, List.cons_append, List.cons.injEq] at split
    · cases split.1 ▸ kind
    · obtain ⟨rfl, rfl, rfl⟩ := split
      exact ⟨rfl, rfl, rfl⟩
    · cases split.2.2.1 ▸ kind
    · simp at split
  obtain rfl := Except.ok.inj (frontRead.symm.trans frontLayers)
  obtain rfl := Except.ok.inj (backRead.symm.trans backLayers)
  have value : marker.given .val uint64 0 = 258 := by decide +kernel
  rw [value] at marked
  exact ⟨success, recorded, (marked (by decide) (by decide)).2 ⟨by decide, by decide⟩⟩

/-- A marker that a payload in front fills, one that a payload behind cuts off, one that the end of
the description cuts off, and one that stands where a payload has cut the header in front. -/
theorem Frame.marked_of_encode_overwritten :
    let encoded (text : String) := (Frame.new [] text.toList 1600).encode {}
    let filled := encoded "Ether()/Payload()/TSC()"
    let cut := encoded "Ether()/IPv6()/TSC()/Payload(len=64)"
    let late := encoded "Payload(size=1518,fill=0)/TSC()"
    let covered := encoded "Ether()/IPv6()/TCP()/Payload(len=64,fill=0)/TSC()"
    (filled.result = .ok () ∧ filled.state.tscOffset = some 14 ∧ ¬ filled.state.Marked 14 0) ∧
      (cut.result = .ok () ∧ cut.state.tscOffset = some 54 ∧ ¬ cut.state.Marked 54 0) ∧
      (late.result = .ok () ∧ late.state.tscOffset = some 1514 ∧ ¬ late.state.Marked 1514 0) ∧
      covered.result = .ok () ∧ covered.state.tscOffset = some 60 ∧
        ¬ covered.state.Marked 60 0 := by
  decide +kernel

end FrameText
