import FrameText.Proofs.Building
import Mathlib.Control.Monad.Basic

/-!
# Capacity — the size of the buffer only decides whether a frame fits

The encoder is compared with itself in a larger buffer.  As long as the smaller one has room, both
do the same to the bytes that they share, and the bytes that only the larger one has are not
touched.

1. `Frame.Within` relates a frame to one with more room.
2. `Frame.Within.placed`, `Frame.Within.settled` and `Frame.Within.finish` keep it over one step,
   `Layer.build_within` over a build that succeeds.
3. `encodeLayers_within` says that a run that fails for another reason fails for the same reason.
4. `Frame.encode_of_capacity` puts both together for a description.
-/

namespace FrameText

open Encoding

/-- Whether the second frame is the first one with more room behind its bytes.  Names and
descriptions do not matter. -/
structure Frame.Within (frame wide : Frame) : Prop where
  buffer : frame.buffer <+: wide.buffer
  dataLen : wide.dataLen = frame.dataLen
  tscOffset : wide.tscOffset = frame.tscOffset
  l2 : wide.l2 = frame.l2
  l3 : wide.l3 = frame.l3
  l4 : wide.l4 = frame.l4

/-! ## Bytes behind the buffer -/

namespace Layer

variable {layer : Layer} {offset dataLen count : Nat} {next : Option LayerKind}
  {buffer tail : Bytes}

/-- A seal does not reach behind the bytes that belong to the frame. -/
theorem sealTail_append (sealing : Option (Nat × (Bytes → UInt16))) (extra : Bytes)
    (fits : count ≤ tail.length) :
    sealTail sealing count (tail ++ extra) = sealTail sealing count tail ++ extra := by
  cases sealing with
  | none => rfl
  | some plan =>
    rcases plan with ⟨field, sum⟩
    by_cases short : count < field + 2
    · rw [sealTail, sealTail, if_pos short, if_pos short]
    · have zeros : field + ([0, 0] : Bytes).length ≤ tail.length := by
        simp only [List.length_cons, List.length_nil]
        omega
      have length : (Bytes.overwrite tail field [0, 0]).length = tail.length :=
        Bytes.length_overwrite zeros
      rw [sealTail, sealTail, if_neg short, if_neg short, Bytes.overwrite_append_left zeros,
        List.take_append_of_le_length (by omega)]
      exact Bytes.overwrite_append_left (by rw [Bytes.length_ofUInt16]; omega)

/-- Nor does the way back of a layer. -/
theorem settledBuffer_append (extra : Bytes) (room : offset + layer.length ≤ buffer.length)
    (used : dataLen ≤ buffer.length) :
    layer.settledBuffer offset next dataLen (buffer ++ extra) =
      layer.settledBuffer offset next dataLen buffer ++ extra := by
  cases payload : layer.isPayload with
  | true =>
    cases layer with
    | payload size fill =>
      simp only [settledBuffer]
      split
      · exact Bytes.overwrite_append_left (by rw [List.length_replicate]; omega)
      · rfl
    | _ => cases payload
  | false =>
    rw [settledBuffer_eq payload, settledBuffer_eq payload, Bytes.slice_append_left room,
      List.take_append_of_le_length (by omega), List.drop_append_of_le_length room,
      sealTail_append _ _ (by rw [List.length_drop]; omega)]
    simp only [List.append_assoc]

end Layer

/-! ## Steps in a larger buffer -/

namespace Frame.Within

variable {layer : Layer} {frame wide : Frame}

theorem capacity (within : frame.Within wide) : frame.capacity ≤ wide.capacity :=
  within.buffer.length_le

theorem used (within : frame.Within wide) (used : frame.dataLen ≤ frame.capacity) :
    wide.dataLen ≤ wide.capacity := by
  rw [within.dataLen]
  exact Nat.le_trans used within.capacity

theorem target (within : frame.Within wide) (room : layer.target frame.dataLen ≤ frame.capacity) :
    layer.target wide.dataLen ≤ wide.capacity := by
  rw [within.dataLen]
  exact Nat.le_trans room within.capacity

theorem data (within : frame.Within wide) (used : frame.dataLen ≤ frame.capacity) :
    wide.data = frame.data := by
  obtain ⟨extra, same⟩ := within.buffer
  rw [Frame.data, Frame.data, within.dataLen, ← same, List.take_append_of_le_length used]

/-- Fresh frames. -/
theorem new (name text label description : Text) {small large : Nat} (le : small ≤ large) :
    (Frame.new name text small).Within (Frame.new label description large) where
  buffer := ⟨List.replicate (large - small) 0, by
    simp [Frame.new, Nat.add_sub_cancel' le]⟩
  dataLen := rfl
  tscOffset := rfl
  l2 := rfl
  l3 := rfl
  l4 := rfl

theorem placed (within : frame.Within wide) (room : layer.target frame.dataLen ≤ frame.capacity)
    (used : frame.dataLen ≤ frame.capacity) : (layer.placed frame).Within (layer.placed wide) := by
  obtain ⟨⟨extra, same⟩, dataLen, tscOffset, l2, l3, l4⟩ := within
  have fits : frame.dataLen + (layer.early frame.dataLen).length ≤ frame.buffer.length := by
    have := layer.length_early frame.dataLen
    rw [Frame.capacity] at room used
    omega
  have bytes : (layer.placed wide).buffer = (layer.placed frame).buffer ++ extra := by
    rw [Layer.buffer_placed, Layer.buffer_placed, dataLen, ← same,
      Bytes.overwrite_append_left fits]
  refine ⟨⟨extra, bytes.symm⟩, ?_, ?_, ?_, ?_, ?_⟩
  · rw [Layer.dataLen_placed, Layer.dataLen_placed, dataLen]
  all_goals
    cases layer <;>
      simp only [Layer.placed, Layer.record, recordL2, recordL3, recordL4, extendL2, dataLen,
        tscOffset, l2, l3, l4]

theorem settled {offset : Nat} (next : Option LayerKind) (within : frame.Within wide)
    (room : offset + layer.length ≤ frame.capacity) (used : frame.dataLen ≤ frame.capacity) :
    Frame.Within
      { frame with buffer := layer.settledBuffer offset next frame.dataLen frame.buffer }
      { wide with buffer := layer.settledBuffer offset next wide.dataLen wide.buffer } := by
  obtain ⟨⟨extra, same⟩, dataLen, tscOffset, l2, l3, l4⟩ := within
  refine ⟨⟨extra, ?_⟩, dataLen, tscOffset, l2, l3, l4⟩
  simp only [dataLen, ← same]
  exact (Layer.settledBuffer_append extra room used).symm

theorem finish {final : Frame} (within : frame.Within wide) (finished : frame.finish = .ok final) :
    ∃ wideFinal, wide.finish = .ok wideFinal ∧ final.Within wideFinal := by
  obtain ⟨fits, rfl⟩ := Frame.finish_eq_ok.1 finished
  refine ⟨_, Frame.finish_eq_ok.2 ⟨?_, rfl⟩, ?_⟩
  · rw [within.dataLen]
    exact fits.imp id fun fits => Nat.le_trans fits within.capacity
  · obtain ⟨buffer, dataLen, tscOffset, l2, l3, l4⟩ := within
    exact ⟨buffer, congrArg Limits.clamp dataLen, tscOffset, l2, l3, l4⟩

end Frame.Within

/-- A build that succeeds is the same in a larger buffer. -/
theorem Layer.build_within {layers : List Layer} {frame wide final : Frame}
    (within : frame.Within wide) (used : frame.dataLen ≤ frame.capacity)
    (built : build layers frame = .ok final) :
    ∃ wideFinal, build layers wide = .ok wideFinal ∧ final.Within wideFinal := by
  induction layers generalizing frame wide final with
  | nil => exact within.finish built
  | cons layer rest ih =>
    rcases (build_cons_eq_ok used).1 built with ⟨room, single, inner, behind, rfl⟩
    rcases build_behind room used behind with ⟨innerUsed, -, header⟩
    obtain ⟨wideInner, wideBehind, innerWithin⟩ :=
      ih (within.placed room used) (used_placed room used) behind
    refine ⟨_, (build_cons_eq_ok (within.used used)).2
      ⟨within.target room, single, wideInner, wideBehind, rfl⟩, ?_⟩
    rw [within.dataLen]
    exact innerWithin.settled (firstKind rest) header innerUsed

/-! ## Failures -/

/-- Whether an operation fails because the buffer is too small. -/
def Error.IsOverflow (e : Error) : Prop :=
  ∃ needed room, e = .bufferOverflow needed room

section Failures

variable {frame wide : Frame} {e : Error}

theorem isOverflow_of_setLength {length : Nat} (failed : frame.setLength length = .error e) :
    e.IsOverflow := by
  unfold Frame.setLength at failed
  split at failed
  · cases failed
    exact ⟨_, _, rfl⟩
  · cases failed

/-- The end of the description fails for want of room only. -/
theorem isOverflow_of_finish (failed : frame.finish = .error e) : e.IsOverflow := by
  unfold Frame.finish at failed
  split at failed
  · cases failed
  · exact isOverflow_of_setLength failed

/-- So does the way down of a layer. -/
theorem isOverflow_of_place {layer : Layer} (failed : layer.place frame = .error e) :
    e.IsOverflow := by
  rcases bind_eq_error.1 failed with small | ⟨grown, sized, written⟩
  · exact isOverflow_of_setLength small
  · rw [Layer.place_eq (Frame.setLength_eq_ok.1 sized).1] at failed
    cases failed

/-- A run that does not fail for want of room fails for the same reason in a larger buffer. -/
theorem encodeLayers_within (verbose : Bool) (index : Nat) (tokens : List LayerToken)
    (within : frame.Within wide) (used : frame.dataLen ≤ frame.capacity)
    (failed : (encodeLayers verbose index tokens frame).result = .error e)
    (other : ¬ e.IsOverflow) : (encodeLayers verbose index tokens wide).result = .error e := by
  induction tokens generalizing index frame wide with
  | nil =>
    rw [encodeLayers_nil, Outcome.result_after] at failed
    rcases finishLength_eq frame with ⟨fine, -⟩ | ⟨fault, faulty, finished⟩
    · rw [(Outcome.andThen_of_ok fine).1] at failed
      cases failed
    · rw [(Outcome.andThen_of_error faulty).1] at failed
      cases failed
      exact absurd (isOverflow_of_finish finished) other
  | cons token rest ih =>
    cases read : Layer.ofToken token with
    | error fault =>
      rw [encodeLayers_of_unread read] at failed ⊢
      exact failed
    | ok layer =>
      cases down : layer.place frame with
      | error fault =>
        rw [encodeLayers_of_unplaced read down] at failed
        cases failed
        exact absurd (isOverflow_of_place down) other
      | ok reached =>
        obtain ⟨room, rfl⟩ := Layer.place_eq_ok.1 down
        rw [encodeLayers_of_placed read down, Outcome.result_after] at failed
        rw [encodeLayers_of_placed read (Layer.place_eq (within.target room)), Outcome.result_after]
        have placed := @Frame.Within.placed layer _ _ within room used
        cases answer : (encodeLayers verbose (index + 1) rest (layer.placed frame)).result with
        | error fault =>
          rw [(Outcome.andThen_of_error answer).1] at failed
          cases failed
          have behind := ih (index + 1) placed (Layer.used_placed room used) answer
          rw [(Outcome.andThen_of_error behind).1]
        | ok next =>
          -- The layers behind succeed in both buffers, and both frames have room for the header.
          obtain ⟨layers, spelled, built, rfl⟩ := build_of_encodeLayers answer
          obtain ⟨wideInner, wideBuilt, innerWithin⟩ :=
            Layer.build_within placed (Layer.used_placed room used) built
          have wideRun := @encodeLayers_of_build verbose (index + 1) rest layers _ wideInner spelled
            wideBuilt
          obtain ⟨innerUsed, -, header⟩ := Layer.build_behind room used built
          have wideUsed := innerWithin.used innerUsed
          have wideHeader := Nat.le_trans header innerWithin.capacity
          have tight := @Layer.settle_eq layer _ (Layer.firstKind layers) _ header innerUsed
          have roomy := @Layer.settle_eq layer _ (Layer.firstKind layers) _ wideHeader wideUsed
          rw [(Outcome.andThen_of_ok answer).1] at failed
          rw [(Outcome.andThen_of_ok wideRun.1).1, wideRun.2, within.dataLen]
          cases again : layer.repeated? (Layer.firstKind layers) with
          | none =>
            rw [again] at tight
            rw [leave_of_ok tight] at failed
            cases failed
          | some tag =>
            rw [again] at tight roomy
            rw [leave_of_error tight] at failed
            rw [leave_of_error roomy]
            exact failed

end Failures

/-! ## Descriptions -/

namespace Frame

variable {config : Config} {frame wide : Frame}

/-- The encoder does the same in a larger buffer if it succeeds, also for another description that
spells the same layers. -/
theorem encode_within (within : frame.reset.Within wide.reset)
    (spelled : (Layer.ofDescription wide.text).toOption = (Layer.ofDescription frame.text).toOption)
    (success : (frame.encode config).result = .ok ()) :
    (wide.encode config).result = .ok () ∧
      (frame.encode config).state.Within (wide.encode config).state := by
  obtain ⟨layers, read, built⟩ := Frame.encode_eq_ok.1 ⟨success, rfl⟩
  obtain ⟨wideFinal, wideBuilt, same⟩ := Layer.build_within within (Nat.zero_le _) built
  have wideRead : Layer.ofDescription wide.text = .ok layers := by
    rw [read] at spelled
    cases answer : Layer.ofDescription wide.text with
    | error e =>
      rw [answer] at spelled
      cases spelled
    | ok others =>
      rw [answer] at spelled
      cases spelled
      rfl
  obtain ⟨wideSuccess, rfl⟩ :=
    (@Frame.encode_eq_ok config wide wideFinal).2 ⟨layers, wideRead, wideBuilt⟩
  exact ⟨wideSuccess, same⟩

/-- It fails for the same reason if that is not the size of the buffer. -/
theorem encode_error_within {e : Error} (within : frame.reset.Within wide.reset)
    (described : wide.text = frame.text) (failed : (frame.encode config).result = .error e)
    (other : ¬ e.IsOverflow) : (wide.encode config).result = .error e := by
  cases found : (scan config.verbose frame.text).1 with
  | error fault =>
    rw [encode_of_unscanned found] at failed
    rw [encode_of_unscanned (described ▸ found)]
    exact failed
  | ok tokens =>
    have stopped := (encode_eq_error found).1 failed
    apply (encode_eq_error (described ▸ found)).2
    exact encodeLayers_within config.verbose 0 tokens within (Nat.zero_le _) stopped other

/-- In a buffer that is not smaller the encoder makes the same frame, or fails for the same reason
unless that was the size of the buffer. -/
theorem encode_of_capacity (config : Config) (name text : Text) {small large : Nat}
    (le : small ≤ large) :
    let tight := (new name text small).encode config
    let roomy := (new name text large).encode config
    (tight.result = .ok () →
        roomy.result = .ok () ∧ roomy.state.data = tight.state.data ∧
          roomy.state.tscOffset = tight.state.tscOffset ∧ roomy.state.l2 = tight.state.l2 ∧
          roomy.state.l3 = tight.state.l3 ∧ roomy.state.l4 = tight.state.l4) ∧
      ∀ e, tight.result = .error e → (∀ needed room, e ≠ .bufferOverflow needed room) →
        roomy.result = .error e := by
  intro tight roomy
  have within : (new name text small).reset.Within (new name text large).reset := by
    refine Within.new _ _ _ _ ?_
    rw [capacity, capacity, new, new, List.length_replicate, List.length_replicate]
    exact le
  constructor
  · intro success
    obtain ⟨wideSuccess, same⟩ := encode_within within rfl success
    have used := ((new name text small).encode_keeps config).used
    exact ⟨wideSuccess, same.data used, same.tscOffset, same.l2, same.l3, same.l4⟩
  · intro e failed other
    refine encode_error_within within rfl failed ?_
    rintro ⟨needed, room, overflow⟩
    exact other needed room overflow

/-- A frame that just fits, and a description that fails in any buffer that has room for its first
layer. -/
theorem encode_of_capacity_exact :
    let text := "Ether()/ipv4(ttl=9)/UDP(dport=7)/TSC(val=1)/Payload(append=4)".toList
    ((new [] text 60).encode {}).result = .ok () ∧
      ((new [] text 2048).encode {}).result = .ok () ∧
      ((new [] text 2048).encode {}).state.data = ((new [] text 60).encode {}).state.data ∧
      ((new [] text 2048).encode {}).state.tscOffset = some 42 ∧
      ((new [] "Ether()/UDP(port=1)".toList 2048).encode {}).result =
        .error (.invalidKey .udp "port".toList) := by
  intro text
  have success : ((new [] text 60).encode {}).result = .ok () := by decide +kernel
  have marker : ((new [] text 60).encode {}).state.tscOffset = some 42 := by decide +kernel
  have failed : ((new [] "Ether()/UDP(port=1)".toList 14).encode {}).result =
      .error (.invalidKey .udp "port".toList) := by
    decide +kernel
  have roomier : 60 ≤ 2048 := by decide
  have roomiest : 14 ≤ 2048 := by decide
  obtain ⟨wideSuccess, data, tscOffset, -⟩ := (encode_of_capacity {} [] text roomier).1 success
  exact ⟨success, wideSuccess, data, tscOffset.trans marker,
    (encode_of_capacity {} [] _ roomiest).2 _ failed fun _ _ overflow => nomatch overflow⟩

end Frame

end FrameText
