import FrameText.Proofs.DerivedFields
import Mathlib.Control.Monad.Basic

/-!
# Frame length — all layers of a frame see the same final length

A payload may lengthen or shorten a frame in the middle of a description, layers behind it lengthen
it again, and the end of the description brings it into the limits of Ethernet.

1. `Encoding.Calls` are the calls that the encoder makes of itself.
2. `Encoding.inner_of_success` says what a call on a layer does with the frame that the call on the
   layers behind it leaves.
3. `Encoding.Calls.dataLen_eq` carries the length from call to call, `Layer.toNat_lengthIn` says that
   length fields are computed from it.
4. `Frame.dataLen_of_encode` says so of every frame that is encoded.
-/

namespace FrameText

open Bytes Layer

/-! ## Definitions -/

namespace Encoding

/-- A call of the encoder: the layers that are left, the first of which has this index, and the
frame with the layers in front of them. -/
structure Call where
  index : Nat
  tokens : List LayerToken
  frame : Frame

/-- The answer of a call. -/
def Call.outcome (verbose : Bool) (call : Call) : Outcome Frame (Option LayerKind) :=
  encodeLayers verbose call.index call.tokens call.frame

/-- The calls within a call, itself included.  A call on a layer places that layer and then makes a
call on the layers behind it; the last call has no layers left. -/
inductive Calls : Call → Call → Prop where
  | refl (call) : Calls call call
  | step {index token rest frame layer placed inner} :
      Layer.ofToken token = .ok layer → layer.place frame = .ok placed →
      Calls ⟨index + 1, rest, placed⟩ inner → Calls ⟨index, token :: rest, frame⟩ inner

end Encoding

namespace Layer

/-- The length field of a layer whose header stands at the start of these bytes, if it has one. -/
def lengthIn? (layer : Layer) (bytes : Bytes) : Option UInt16 :=
  match layer with
  | ipv4 _ _ => some (Header.get bytes : IPv4Header).totalLength
  | ipv6 _ _ => some (Header.get bytes : IPv6Header).payloadLength
  | udp _ _ => some (Header.get bytes : UdpHeader).length
  | _ => none

/-- Where the bytes start that a length field counts: behind the header for IPv6, with the header
for the others. -/
def countsFrom (layer : Layer) (offset : Nat) : Nat :=
  match layer with
  | ipv6 _ _ => offset + Header.size IPv6Header
  | _ => offset

/-! ## Length fields -/

/-- On the way back a layer counts up to the end of the frame. -/
theorem toNat_lengthIn {layer : Layer} {offset dataLen : Nat} {next : Option LayerKind}
    {buffer : Bytes} (room : offset + layer.length ≤ buffer.length) (small : dataLen < 65536)
    {field : UInt16}
    (found : layer.lengthIn? ((layer.settledBuffer offset next dataLen buffer).drop offset) =
      some field) :
    field.toNat = dataLen - layer.countsFrom offset := by
  -- The bytes from the layer on start with the header that was written.
  have written : ∀ header, layer.isPayload = false →
      layer.headerBytes next (dataLen - offset) = some header →
      ((layer.settledBuffer offset next dataLen buffer).drop offset).take layer.length = header := by
    intro header real bytes
    rw [drop_settledBuffer real room, bytes, Option.getD_some, ← length_headerBytes bytes,
      List.take_left]
  cases layer with
  | ipv4 header protocol =>
    cases found
    rw [get_ipv4 (written _ rfl rfl)]
    exact toNat_lengthField (by omega)
  | ipv6 header protocol =>
    cases found
    rw [get_ipv6 (written _ rfl rfl), countsFrom, ← Nat.sub_sub]
    exact toNat_lengthField (by omega)
  | udp source destination =>
    cases found
    rw [(get_of_take (written _ rfl rfl)).trans (UdpHeader.get_put _ _)]
    exact toNat_lengthField (by omega)
  | _ => cases found

end Layer

/-! ## Calls -/

namespace Encoding

variable {verbose : Bool} {outer inner : Call}

/-- A successful call on a layer changes nothing but bytes in the frame that the call on the layers
behind it leaves. -/
theorem inner_of_success {index : Nat} {token : LayerToken} {rest : List LayerToken} {frame : Frame}
    {next : Option LayerKind} (used : frame.dataLen ≤ frame.capacity)
    (success : (encodeLayers verbose index (token :: rest) frame).result = .ok next) :
    ∃ layer placed inner follower,
      Layer.ofToken token = .ok layer ∧ layer.place frame = .ok placed ∧
      placed.dataLen ≤ placed.capacity ∧
      (encodeLayers verbose (index + 1) rest placed).result = .ok follower ∧
      (encodeLayers verbose (index + 1) rest placed).state = inner ∧
      frame.dataLen + layer.length ≤ inner.capacity ∧
      (encodeLayers verbose index (token :: rest) frame).state = { inner with
        buffer := layer.settledBuffer frame.dataLen follower inner.dataLen inner.buffer } := by
  obtain ⟨layers, spelled, built, -⟩ := build_of_encodeLayers success
  obtain ⟨layer, behind, read, others, rfl⟩ := mapM_cons_eq_ok.1 spelled
  obtain ⟨room, -, inner, innerBuilt, settled⟩ := (build_cons_eq_ok used).1 built
  have call := @encodeLayers_of_build verbose (index + 1) rest behind _ inner others innerBuilt
  exact ⟨layer, layer.placed frame, inner, firstKind behind, read, place_eq room,
    used_placed room used, call.1, call.2, (build_behind room used innerBuilt).2.2, settled⟩

/-- All calls within a successful call succeed and leave frames of the same length. -/
theorem Calls.dataLen_eq (calls : Calls outer inner)
    (used : outer.frame.dataLen ≤ outer.frame.capacity) {next : Option LayerKind}
    (success : (outer.outcome verbose).result = .ok next) :
    inner.frame.dataLen ≤ inner.frame.capacity ∧
      (∃ next, (inner.outcome verbose).result = .ok next) ∧
      (inner.outcome verbose).state.dataLen = (outer.outcome verbose).state.dataLen := by
  -- The induction goes from the outer call inwards, in which success is handed down.
  induction calls generalizing next with
  | refl call => exact ⟨used, ⟨next, success⟩, rfl⟩
  | @step index token rest frame layer placed inner read down _ ih =>
    obtain ⟨_, _, state, follower, again, place, fits, behind, same, -, settled⟩ :=
      inner_of_success used success
    -- The call that was made is the one on the layer that the token spells.
    cases read.symm.trans again
    cases down.symm.trans place
    obtain ⟨innerUsed, fine, length⟩ := ih fits behind
    refine ⟨innerUsed, fine, length.trans ?_⟩
    simp only [Call.outcome, settled, same]

/-- A successful call ends in a call without layers. -/
theorem exists_last_call {index : Nat} {tokens : List LayerToken} {frame : Frame}
    {next : Option LayerKind} (used : frame.dataLen ≤ frame.capacity)
    (success : (encodeLayers verbose index tokens frame).result = .ok next) :
    ∃ reached, Calls ⟨index, tokens, frame⟩ ⟨index + tokens.length, [], reached⟩ := by
  induction tokens generalizing index frame next with
  | nil => exact ⟨frame, .refl _⟩
  | cons token rest ih =>
    obtain ⟨layer, placed, _, follower, read, down, fits, behind, -⟩ :=
      inner_of_success used success
    obtain ⟨reached, calls⟩ := ih fits behind
    refine ⟨reached, ?_⟩
    rw [List.length_cons, Nat.add_comm rest.length, ← Nat.add_assoc]
    exact .step read down calls

end Encoding

/-! ## Encoded frames -/

open Encoding in
/-- An encoded frame is what a successful call on all of its layers leaves. -/
theorem Frame.call_of_encode {config : Config} {frame : Frame}
    (success : (frame.encode config).result = .ok ()) :
    ∃ tokens next, (scan config.verbose frame.text).1 = .ok tokens ∧
      (encodeLayers config.verbose 0 tokens frame.reset).result = .ok next ∧
      (frame.encode config).state = (encodeLayers config.verbose 0 tokens frame.reset).state := by
  cases found : (scan config.verbose frame.text).1 with
  | error e =>
    rw [encode_of_unscanned found] at success
    cases success
  | ok tokens =>
    obtain ⟨result, state⟩ := result_of_scanned found
    rw [result] at success
    obtain ⟨next, run, -⟩ := map_eq_ok.1 success
    exact ⟨tokens, next, rfl, run, state⟩

open Encoding in
/-- An encoded frame keeps to the limits of Ethernet and to its buffer.  Its length is the one that
the end of the description gave to it: every call of the encoder leaves a frame of that length, and
every length field counts up to it. -/
theorem Frame.dataLen_of_encode {config : Config} {frame : Frame}
    (success : (frame.encode config).result = .ok ()) :
    ∃ final, (frame.encode config).state = final ∧
      60 ≤ final.dataLen ∧ final.dataLen ≤ 1514 ∧ final.dataLen ≤ final.capacity ∧
      final.capacity = frame.capacity ∧
      ∃ tokens, (scan config.verbose frame.text).1 = .ok tokens ∧
        (∃ reached, Calls ⟨0, tokens, frame.reset⟩ ⟨tokens.length, [], reached⟩ ∧
          final.dataLen = Limits.clamp reached.dataLen) ∧
        ∀ call, Calls ⟨0, tokens, frame.reset⟩ call →
          (∃ next, (call.outcome config.verbose).result = .ok next) ∧
          (call.outcome config.verbose).state.dataLen = final.dataLen ∧
          ∀ token rest layer field, call.tokens = token :: rest → Layer.ofToken token = .ok layer →
            layer.lengthIn?
                ((call.outcome config.verbose).state.buffer.drop call.frame.dataLen) = some field →
            field.toNat = final.dataLen - layer.countsFrom call.frame.dataLen := by
  obtain ⟨tokens, next, scanned, run, state⟩ := Frame.call_of_encode success
  have used : frame.reset.dataLen ≤ frame.reset.capacity := Nat.zero_le _
  have capacity : frame.reset.capacity = frame.capacity := List.length_replicate
  obtain ⟨layers, -, built, -⟩ := build_of_encodeLayers run
  rw [← state] at built
  generalize (frame.encode config).state = final at state built
  have bounds : 60 ≤ final.dataLen ∧ final.dataLen ≤ 1514 := by
    rw [dataLen_of_build built used]
    exact Limits.clamp_bounds _
  obtain ⟨fits, sameCapacity⟩ := build_used built used
  have within : ∀ call, Calls ⟨0, tokens, frame.reset⟩ call →
      call.frame.dataLen ≤ call.frame.capacity ∧
        (∃ next, (call.outcome config.verbose).result = .ok next) ∧
        (call.outcome config.verbose).state.dataLen = final.dataLen := by
    intro call calls
    rw [state]
    exact calls.dataLen_eq used run
  refine ⟨final, rfl, bounds.1, bounds.2, fits, sameCapacity.trans capacity, tokens, scanned, ?_, ?_⟩
  · obtain ⟨reached, calls⟩ := exists_last_call used run
    rw [Nat.zero_add] at calls
    obtain ⟨-, ⟨_, fine⟩, length⟩ := within _ calls
    -- The last call builds no layers, so that it only brings the frame to its length.
    obtain ⟨none, spelled, finished, -⟩ := build_of_encodeLayers fine
    cases spelled
    refine ⟨reached, calls, ?_⟩
    rw [← length, Call.outcome, (Frame.finish_eq_ok.1 finished).2]
  · intro call calls
    obtain ⟨callUsed, ⟨_, fine⟩, length⟩ := within call calls
    refine ⟨⟨_, fine⟩, length, ?_⟩
    rintro token rest layer field given read found
    obtain ⟨index, _, start⟩ := call
    obtain rfl : _ = token :: rest := given
    obtain ⟨_, placed, inner, follower, again, -, -, -, -, room, settled⟩ :=
      inner_of_success callUsed fine
    cases read.symm.trans again
    simp only [Call.outcome, settled] at found length ⊢
    rw [← length]
    exact toNat_lengthIn room (by omega) found

open Encoding in
/-- A frame that grows, is cut, and grows again: all calls leave its final length. -/
theorem Frame.dataLen_of_encode_cut :
    let frame := Frame.new []
      "Ether()/IPv4()/Payload(append=80)/UDP()/Payload(len=64)/Raw('late')".toList 200
    (frame.encode {}).result = .ok () ∧
      ∃ tokens, (scan false frame.text).1 = .ok tokens ∧
        ∀ call, Calls ⟨0, tokens, frame.reset⟩ call → (call.outcome false).state.dataLen = 64 := by
  intro frame
  have run : (frame.encode {}).result = .ok () ∧ (frame.encode {}).state.dataLen = 64 := by
    decide +kernel
  obtain ⟨final, rfl, -, -, -, -, tokens, scanned, -, within⟩ := Frame.dataLen_of_encode run.1
  exact ⟨run.1, tokens, scanned, fun call calls => (within call calls).2.1.trans run.2⟩

end FrameText
