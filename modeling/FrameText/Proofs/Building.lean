import FrameText.Proofs.Placement
import FrameText.Proofs.Results

/-!
# Building — the encoder without its log

`Layer.build` does to a frame what the encoder does, for layers whose parameters have been read and
without reporting anything.

1. `Layer.build_cons_eq_ok` says what one layer contributes to a successful build.
2. `Layer.build_used`, `Layer.dataLen_of_build`: what every build keeps, and the length it ends
   with.
3. `Frame.encode_eq_ok`: the encoder succeeds exactly where the description spells layers that can
   be built, with the same frame.
4. `Frame.encode_keeps`: what the encoder leaves alone even where it fails.
-/

namespace FrameText

open Encoding

/-! ## Definitions -/

/-- The length that the end of the description gives to a frame. -/
def Limits.clamp (length : Nat) : Nat :=
  if length < minFrameLength then minFrameLength
  else if maxFrameLength < length then maxFrameLength
  else length

/-- The frame brought to a length that Ethernet allows. -/
def Frame.finish (frame : Frame) : Except Error Frame :=
  if Limits.clamp frame.dataLen = frame.dataLen then .ok frame
  else frame.setLength (Limits.clamp frame.dataLen)

namespace Layer

/-- The kind of the first layer, or `none` at the end of the frame. -/
def firstKind (layers : List Layer) : Option LayerKind :=
  layers.head?.map kind

/-- Places layers in order, finishes the frame, and settles the layers in reverse order. -/
def build : List Layer → Frame → Except Error Frame
  | [], frame => frame.finish
  | layer :: rest, frame => do
    let placed ← layer.place frame
    let inner ← build rest placed
    layer.settle frame.dataLen (firstKind rest) inner

/-- The layers that a description spells. -/
def ofDescription (text : Text) : Except Error (List Layer) := do
  (← (scan false text).1).mapM ofToken

/-- The number of bytes in use once all layers are placed behind `offset` bytes. -/
def reach : Nat → List Layer → Nat
  | offset, [] => offset
  | offset, layer :: rest => reach (layer.target offset) rest

end Layer

/-! ## Finishing the frame -/

/-- A frame ends within the limits of Ethernet. -/
theorem Limits.clamp_bounds (length : Nat) : 60 ≤ clamp length ∧ clamp length ≤ 1514 := by
  have least : minFrameLength = 60 := rfl
  have most : maxFrameLength = 1514 := rfl
  unfold clamp
  split
  · omega
  · split <;> omega

theorem Limits.clamp_eq_self {length : Nat} (least : 60 ≤ length) (most : length ≤ 1514) :
    clamp length = length := by
  have long : ¬ length < minFrameLength := Nat.not_lt_of_le least
  have short : ¬ maxFrameLength < length := Nat.not_lt_of_le most
  rw [clamp, if_neg long, if_neg short]

/-- What lies in a frame that is brought to its length: what lies in every frame, and what the
layers reach within the limits. -/
theorem Limits.le_clamp_iff {count length : Nat} :
    count ≤ clamp length ↔ count ≤ 60 ∨ count ≤ 1514 ∧ count ≤ length := by
  have least : minFrameLength = 60 := rfl
  have most : maxFrameLength = 1514 := rfl
  unfold clamp
  split
  · omega
  · split <;> omega

theorem Limits.le_clamp {count length : Nat} (reached : count ≤ length) (most : count ≤ 1514) :
    count ≤ clamp length :=
  le_clamp_iff.2 (.inr ⟨most, reached⟩)

theorem Frame.finish_eq_ok {frame final : Frame} :
    frame.finish = .ok final ↔
      (Limits.clamp frame.dataLen = frame.dataLen ∨
        Limits.clamp frame.dataLen ≤ frame.capacity) ∧
      final = { frame with dataLen := Limits.clamp frame.dataLen } := by
  unfold Frame.finish
  by_cases same : Limits.clamp frame.dataLen = frame.dataLen
  · rw [if_pos same]
    constructor
    · intro h
      cases h
      exact ⟨.inl same, by rw [same]⟩
    · rintro ⟨-, rfl⟩
      rw [same]
  · rw [if_neg same, Frame.setLength_eq_ok]
    constructor
    · rintro ⟨fits, rfl⟩
      exact ⟨.inr fits, rfl⟩
    · rintro ⟨fits | fits, rfl⟩
      · exact absurd fits same
      · exact ⟨fits, rfl⟩

theorem finishLength_eq (frame : Frame) :
    ((finishLength frame).result = .ok () ∧ frame.finish = .ok (finishLength frame).state) ∨
      ∃ e, (finishLength frame).result = .error e ∧ frame.finish = .error e := by
  -- Both ends of the range are adjusted in the same way.
  have adjusted : ∀ length event, Limits.clamp frame.dataLen = length → length ≠ frame.dataLen →
      (((adjustLength frame length event).result = .ok () ∧
          frame.finish = .ok (adjustLength frame length event).state) ∨
        ∃ e, (adjustLength frame length event).result = .error e ∧ frame.finish = .error e) := by
    intro length event clamped other
    unfold adjustLength Frame.finish
    rw [clamped, if_neg other]
    cases frame.setLength length with
    | error e => exact .inr ⟨e, rfl, rfl⟩
    | ok changed => exact .inl ⟨rfl, rfl⟩
  unfold finishLength
  by_cases short : frame.dataLen < Limits.minFrameLength
  · rw [if_pos short]
    exact adjusted _ _ (by rw [Limits.clamp, if_pos short]) (by omega)
  · by_cases long : Limits.maxFrameLength < frame.dataLen
    · rw [if_neg short, if_pos long]
      exact adjusted _ _ (by rw [Limits.clamp, if_neg short, if_pos long]) (by omega)
    · rw [if_neg short, if_neg long, Frame.finish,
        if_pos (by rw [Limits.clamp, if_neg short, if_neg long])]
      exact .inl ⟨rfl, rfl⟩

/-! ## One layer -/

namespace Layer

variable {layer : Layer} {rest layers : List Layer} {frame final : Frame}

/-- A header lies in the room that is made for it. -/
theorem add_length_le (layer : Layer) (offset : Nat) :
    offset + layer.length ≤ max offset (layer.target offset) := by
  cases layer with
  | payload size fill => exact Nat.le_max_left _ _
  | _ => exact Nat.le_max_right _ _

theorem add_length_le_capacity (room : layer.target frame.dataLen ≤ frame.capacity)
    (used : frame.dataLen ≤ frame.capacity) :
    frame.dataLen + layer.length ≤ frame.capacity := by
  have := layer.add_length_le frame.dataLen
  omega

theorem used_placed (room : layer.target frame.dataLen ≤ frame.capacity)
    (used : frame.dataLen ≤ frame.capacity) :
    (layer.placed frame).dataLen ≤ (layer.placed frame).capacity := by
  rw [dataLen_placed, capacity_placed room used]
  exact room

/-- No build uses more bytes than the buffer has, and the buffer keeps its size. -/
theorem build_used (built : build layers frame = .ok final)
    (used : frame.dataLen ≤ frame.capacity) :
    final.dataLen ≤ final.capacity ∧ final.capacity = frame.capacity := by
  induction layers generalizing frame final with
  | nil =>
    rcases Frame.finish_eq_ok.1 built with ⟨fits, rfl⟩
    refine ⟨?_, rfl⟩
    rcases fits with same | fits
    · rw [same]
      exact used
    · exact fits
  | cons layer rest ih =>
    rcases bind_eq_ok.1 built with ⟨placed, down, others⟩
    rcases bind_eq_ok.1 others with ⟨inner, behind, back⟩
    rcases place_eq_ok.1 down with ⟨room, rfl⟩
    have capacity := capacity_placed room used
    rcases ih behind (used_placed room used) with ⟨innerUsed, innerCapacity⟩
    have header : frame.dataLen + layer.length ≤ inner.capacity := by
      rw [innerCapacity, capacity]
      exact add_length_le_capacity room used
    -- The way back writes bytes but changes neither their number nor the capacity.
    rcases (settle_eq_ok header innerUsed).1 back with ⟨-, rfl⟩
    have length : (layer.settledBuffer frame.dataLen (firstKind rest) inner.dataLen
        inner.buffer).length = inner.buffer.length :=
      length_settledBuffer header innerUsed
    rw [Frame.capacity_withBuffer, length]
    exact ⟨innerUsed, innerCapacity.trans capacity⟩

/-- The frame with the layers behind a layer still has room for the header of that layer. -/
theorem build_behind {inner : Frame} (room : layer.target frame.dataLen ≤ frame.capacity)
    (used : frame.dataLen ≤ frame.capacity) (behind : build rest (layer.placed frame) = .ok inner) :
    inner.dataLen ≤ inner.capacity ∧ inner.capacity = frame.capacity ∧
      frame.dataLen + layer.length ≤ inner.capacity := by
  rcases build_used behind (used_placed room used) with ⟨innerUsed, innerCapacity⟩
  rw [capacity_placed room used] at innerCapacity
  refine ⟨innerUsed, innerCapacity, ?_⟩
  rw [innerCapacity]
  exact add_length_le_capacity room used

/-- What the first layer contributes to a successful build. -/
theorem build_cons_eq_ok (used : frame.dataLen ≤ frame.capacity) :
    build (layer :: rest) frame = .ok final ↔
      layer.target frame.dataLen ≤ frame.capacity ∧
      layer.repeated? (firstKind rest) = none ∧
      ∃ inner, build rest (layer.placed frame) = .ok inner ∧
        final = { inner with
          buffer :=
            layer.settledBuffer frame.dataLen (firstKind rest) inner.dataLen inner.buffer } := by
  -- Both directions settle the layer in the same frame.
  have settled : ∀ {inner : Frame}, layer.target frame.dataLen ≤ frame.capacity →
      build rest (layer.placed frame) = .ok inner →
      (layer.settle frame.dataLen (firstKind rest) inner = .ok final ↔
        layer.repeated? (firstKind rest) = none ∧
          final = { inner with
            buffer :=
              layer.settledBuffer frame.dataLen (firstKind rest) inner.dataLen inner.buffer }) := by
    intro inner room behind
    rcases build_behind room used behind with ⟨innerUsed, -, header⟩
    exact settle_eq_ok header innerUsed
  constructor
  · intro built
    rcases bind_eq_ok.1 built with ⟨placed, down, others⟩
    rcases bind_eq_ok.1 others with ⟨inner, behind, back⟩
    rcases place_eq_ok.1 down with ⟨room, rfl⟩
    rcases (settled room behind).1 back with ⟨single, result⟩
    exact ⟨room, single, inner, behind, result⟩
  · rintro ⟨room, single, inner, behind, result⟩
    have back := (settled room behind).2 ⟨single, result⟩
    exact bind_eq_ok.2 ⟨_, place_eq room, bind_eq_ok.2 ⟨inner, behind, back⟩⟩

/-- A frame ends with the length that its layers reach, brought into the limits of Ethernet. -/
theorem dataLen_of_build (built : build layers frame = .ok final)
    (used : frame.dataLen ≤ frame.capacity) :
    final.dataLen = Limits.clamp (reach frame.dataLen layers) := by
  induction layers generalizing frame final with
  | nil =>
    rcases Frame.finish_eq_ok.1 built with ⟨-, rfl⟩
    rfl
  | cons layer rest ih =>
    rcases (build_cons_eq_ok used).1 built with ⟨room, -, inner, behind, rfl⟩
    have reached := ih behind (used_placed room used)
    rw [dataLen_placed] at reached
    exact reached

theorem dataLen_bounds_of_build (built : build layers frame = .ok final)
    (used : frame.dataLen ≤ frame.capacity) : 60 ≤ final.dataLen ∧ final.dataLen ≤ 1514 := by
  rw [dataLen_of_build built used]
  exact Limits.clamp_bounds _

end Layer

/-! ## What can be built -/

namespace Layer

variable {rest layers : List Layer} {layer : Layer} {frame final : Frame}

/-- Whether a buffer of this capacity has room for the layers behind `offset` bytes and for the end
of the frame, and no tag is repeated. -/
def Buildable (capacity : Nat) : Nat → List Layer → Prop
  | offset, [] => Limits.clamp offset = offset ∨ Limits.clamp offset ≤ capacity
  | offset, layer :: rest =>
    layer.target offset ≤ capacity ∧ layer.repeated? (firstKind rest) = none ∧
      Buildable capacity (layer.target offset) rest

/-- Nothing else can make a build fail. -/
theorem exists_build_iff (used : frame.dataLen ≤ frame.capacity) :
    (∃ final, build layers frame = .ok final) ↔
      Buildable frame.capacity frame.dataLen layers := by
  induction layers generalizing frame with
  | nil =>
    constructor
    · rintro ⟨final, built⟩
      exact (Frame.finish_eq_ok.1 built).1
    · intro fits
      exact ⟨_, Frame.finish_eq_ok.2 ⟨fits, rfl⟩⟩
  | cons layer rest ih =>
    have behind : layer.target frame.dataLen ≤ frame.capacity →
        ((∃ final, build rest (layer.placed frame) = .ok final) ↔
          Buildable frame.capacity (layer.target frame.dataLen) rest) := by
      intro room
      have capacity := capacity_placed room used
      have others := @ih (layer.placed frame) (used_placed room used)
      rw [dataLen_placed, capacity] at others
      exact others
    constructor
    · rintro ⟨final, built⟩
      rcases (build_cons_eq_ok used).1 built with ⟨room, single, inner, others, -⟩
      exact ⟨room, single, (behind room).1 ⟨inner, others⟩⟩
    · rintro ⟨room, single, fits⟩
      rcases (behind room).2 fits with ⟨inner, others⟩
      exact ⟨_, (build_cons_eq_ok used).2 ⟨room, single, inner, others, rfl⟩⟩

end Layer

/-! ## The encoder -/

namespace Outcome

variable {σ α β : Type} {outcome : Outcome σ α} {next : α → σ → Outcome σ β}

theorem andThen_of_ok {a : α} (h : outcome.result = .ok a) :
    (outcome.andThen next).result = (next a outcome.state).result ∧
      (outcome.andThen next).state = (next a outcome.state).state := by
  simp [andThen, h]

theorem andThen_of_error {e : Error} (h : outcome.result = .error e) :
    (outcome.andThen next).result = .error e ∧ (outcome.andThen next).state = outcome.state := by
  simp [andThen, h]

@[simp] theorem result_after (events : List Event) :
    (outcome.after events).result = outcome.result := rfl

@[simp] theorem state_after (events : List Event) :
    (outcome.after events).state = outcome.state := rfl

end Outcome

namespace Encoding

variable {verbose : Bool} {index : Nat} {token : LayerToken} {rest : List LayerToken}
  {layer : Layer} {frame : Frame}

/-- The end of the description, where the frame has its length. -/
def turn (verbose : Bool) (index : Nat) (finished : Frame) : Outcome Frame (Option LayerKind) :=
  ⟨.ok none, finished, [⟨layerLevel verbose, .layerLeft index 0 finished.dataLen none⟩]⟩

/-- The way back of a layer, whose successor is of kind `next`. -/
def leave (verbose : Bool) (index : Nat) (layer : Layer) (offset : Nat) (next : Option LayerKind)
    (inner : Frame) : Outcome Frame (Option LayerKind) :=
  match layer.settle offset next inner with
  | .error e => ⟨.error e, inner, []⟩
  | .ok settled =>
    ⟨.ok (some layer.kind), settled, leaveEvents verbose index layer offset settled.dataLen⟩

/-- The report of a layer that the encoder comes to, or of the end of the description. -/
def entry (verbose : Bool) (index offset : Nat) (token : Option LayerToken) : Event :=
  ⟨layerLevel verbose,
    .layerEntered index offset (token.map LayerToken.kind) ((token.map LayerToken.params).getD [])⟩

theorem encodeLayers_nil (verbose : Bool) (index : Nat) (frame : Frame) :
    encodeLayers verbose index [] frame =
      ((finishLength frame).andThen fun _ => turn verbose index).after
        [entry verbose index frame.dataLen none] := rfl

/-- A layer whose parameters cannot be read is reported and nothing else happens. -/
theorem encodeLayers_of_unread {e : Error} (read : Layer.ofToken token = .error e) :
    encodeLayers verbose index (token :: rest) frame =
      ⟨.error e, frame, [entry verbose index frame.dataLen (some token)]⟩ := by
  unfold encodeLayers
  rw [read]
  rfl

/-- Nor does anything else happen where there is no room for a layer. -/
theorem encodeLayers_of_unplaced {e : Error} (read : Layer.ofToken token = .ok layer)
    (down : layer.place frame = .error e) :
    encodeLayers verbose index (token :: rest) frame =
      ⟨.error e, frame, [entry verbose index frame.dataLen (some token)]⟩ := by
  unfold encodeLayers
  simp only [read, down]
  rfl

/-- A layer that is placed is left once the layers behind it are encoded. -/
theorem encodeLayers_of_placed {reached : Frame} (read : Layer.ofToken token = .ok layer)
    (down : layer.place frame = .ok reached) :
    encodeLayers verbose index (token :: rest) frame =
      ((encodeLayers verbose (index + 1) rest reached).andThen
        (leave verbose index layer frame.dataLen)).after
          [entry verbose index frame.dataLen (some token)] := by
  conv => lhs; unfold encodeLayers
  simp only [read, down]
  rfl

theorem leave_of_ok {offset : Nat} {next : Option LayerKind} {inner settled : Frame}
    (back : layer.settle offset next inner = .ok settled) :
    leave verbose index layer offset next inner =
      ⟨.ok (some layer.kind), settled, leaveEvents verbose index layer offset settled.dataLen⟩ := by
  rw [leave, back]

theorem leave_of_error {offset : Nat} {next : Option LayerKind} {inner : Frame} {e : Error}
    (back : layer.settle offset next inner = .error e) :
    leave verbose index layer offset next inner = ⟨.error e, inner, []⟩ := by
  rw [leave, back]

end Encoding

/-- The answer of the encoder is built from the layers that the tokens spell. -/
theorem build_of_encodeLayers {verbose : Bool} {index : Nat} {tokens : List LayerToken}
    {frame : Frame} {next : Option LayerKind}
    (success : (encodeLayers verbose index tokens frame).result = .ok next) :
    ∃ layers, tokens.mapM Layer.ofToken = .ok layers ∧
      Layer.build layers frame = .ok (encodeLayers verbose index tokens frame).state ∧
      next = Layer.firstKind layers := by
  induction tokens generalizing index frame next with
  | nil =>
    rw [encodeLayers_nil] at success ⊢
    rcases finishLength_eq frame with ⟨fine, finished⟩ | ⟨e, failed, -⟩
    · rw [Outcome.result_after, (Outcome.andThen_of_ok fine).1] at success
      rw [Outcome.state_after, (Outcome.andThen_of_ok fine).2]
      cases success
      exact ⟨[], rfl, finished, rfl⟩
    · rw [Outcome.result_after, (Outcome.andThen_of_error failed).1] at success
      cases success
  | cons token rest ih =>
    cases read : Layer.ofToken token with
    | error e =>
      rw [encodeLayers_of_unread read] at success
      cases success
    | ok layer =>
      cases down : layer.place frame with
      | error e =>
        rw [encodeLayers_of_unplaced read down] at success
        cases success
      | ok placed =>
        rw [encodeLayers_of_placed read down, Outcome.result_after] at success
        rw [encodeLayers_of_placed read down, Outcome.state_after]
        -- The layers behind are encoded first; an error of theirs ends the run.
        cases behind : (encodeLayers verbose (index + 1) rest placed).result with
        | error e =>
          rw [(Outcome.andThen_of_error behind).1] at success
          cases success
        | ok follower =>
          rw [(Outcome.andThen_of_ok behind).1] at success
          rw [(Outcome.andThen_of_ok behind).2]
          rcases ih behind with ⟨layers, spelled, built, rfl⟩
          cases back : layer.settle frame.dataLen (Layer.firstKind layers)
              (encodeLayers verbose (index + 1) rest placed).state with
          | error e =>
            rw [leave_of_error back] at success
            cases success
          | ok settled =>
            rw [leave_of_ok back] at success ⊢
            cases success
            refine ⟨layer :: layers, mapM_cons_eq_ok.2 ⟨layer, layers, read, spelled, rfl⟩, ?_, rfl⟩
            exact bind_eq_ok.2 ⟨placed, down, bind_eq_ok.2 ⟨_, built, back⟩⟩

/-- The encoder succeeds on layers that can be built. -/
theorem encodeLayers_of_build {verbose : Bool} {index : Nat} {tokens : List LayerToken}
    {layers : List Layer} {frame final : Frame} (spelled : tokens.mapM Layer.ofToken = .ok layers)
    (built : Layer.build layers frame = .ok final) :
    (encodeLayers verbose index tokens frame).result = .ok (Layer.firstKind layers) ∧
      (encodeLayers verbose index tokens frame).state = final := by
  induction tokens generalizing index layers frame final with
  | nil =>
    cases spelled
    have ended : frame.finish = .ok final := built
    rw [encodeLayers_nil]
    rcases finishLength_eq frame with ⟨fine, finished⟩ | ⟨e, -, failed⟩
    · rw [finished] at ended
      cases ended
      rw [Outcome.result_after, Outcome.state_after, (Outcome.andThen_of_ok fine).1,
        (Outcome.andThen_of_ok fine).2]
      exact ⟨rfl, rfl⟩
    · rw [failed] at ended
      cases ended
  | cons token rest ih =>
    rcases mapM_cons_eq_ok.1 spelled with ⟨layer, behind, read, others, rfl⟩
    rcases bind_eq_ok.1 built with ⟨placed, down, inside⟩
    rcases bind_eq_ok.1 inside with ⟨inner, innerBuilt, back⟩
    have run : (encodeLayers verbose (index + 1) rest placed).result =
          .ok (Layer.firstKind behind) ∧
        (encodeLayers verbose (index + 1) rest placed).state = inner :=
      ih others innerBuilt
    rw [encodeLayers_of_placed read down, Outcome.result_after, Outcome.state_after,
      (Outcome.andThen_of_ok run.1).1, (Outcome.andThen_of_ok run.1).2, run.2, leave_of_ok back]
    exact ⟨rfl, rfl⟩

/-- Whether single layers are reported does not matter for which are found. -/
theorem scan_result (verbose : Bool) (text : Text) :
    (scan verbose text).1 = (scan false text).1 := by
  have layers : ∀ texts index, (scanLayers verbose index texts).1 =
      (scanLayers false index texts).1 := by
    intro texts
    induction texts with
    | nil => intro index; rfl
    | cons first rest ih =>
      intro index
      unfold scanLayers
      cases LayerToken.ofText? first with
      | none => rfl
      | some token => simp only [ih]
  unfold scan
  split
  · rfl
  · rfl
  · exact layers _ _

namespace Frame

variable {config : Config} {frame : Frame}

/-- The encoder does nothing to a blank frame if the layers are not recognised. -/
theorem encode_of_unscanned {e : Error} (failed : (scan config.verbose frame.text).1 = .error e) :
    frame.encode config = ⟨.error e, frame.reset, (scan config.verbose frame.text).2⟩ := by
  unfold Frame.encode
  rcases scanned : scan config.verbose frame.text with ⟨answer, events⟩
  obtain rfl : answer = .error e := by rw [← failed, scanned]
  rfl

/-- It encodes the layers that are recognised. -/
theorem encode_of_scanned {tokens : List LayerToken}
    (found : (scan config.verbose frame.text).1 = .ok tokens) :
    frame.encode config =
      ((encodeLayers config.verbose 0 tokens frame.reset).andThen fun _ encoded =>
        ⟨.ok (), encoded, finishEvents config encoded⟩).after
          (scan config.verbose frame.text).2 := by
  unfold Frame.encode
  rcases scanned : scan config.verbose frame.text with ⟨answer, events⟩
  obtain rfl : answer = .ok tokens := by rw [← found, scanned]
  rfl

/-- What is left then is what the layers leave. -/
theorem result_of_scanned {tokens : List LayerToken}
    (found : (scan config.verbose frame.text).1 = .ok tokens) :
    (frame.encode config).result =
        (encodeLayers config.verbose 0 tokens frame.reset).result.map (fun _ => ()) ∧
      (frame.encode config).state = (encodeLayers config.verbose 0 tokens frame.reset).state := by
  rw [encode_of_scanned found, Outcome.result_after, Outcome.state_after]
  cases run : (encodeLayers config.verbose 0 tokens frame.reset).result with
  | error e =>
    rw [(Outcome.andThen_of_error run).1, (Outcome.andThen_of_error run).2]
    exact ⟨rfl, rfl⟩
  | ok next =>
    rw [(Outcome.andThen_of_ok run).1, (Outcome.andThen_of_ok run).2]
    exact ⟨rfl, rfl⟩

/-- The encoder fails as the layers do. -/
theorem encode_eq_error {tokens : List LayerToken} {e : Error}
    (found : (scan config.verbose frame.text).1 = .ok tokens) :
    (frame.encode config).result = .error e ↔
      (encodeLayers config.verbose 0 tokens frame.reset).result = .error e := by
  rw [(result_of_scanned found).1]
  cases (encodeLayers config.verbose 0 tokens frame.reset).result with
  | error fault => simp [Except.map]
  | ok next => simp [Except.map]

/-- The encoder succeeds exactly where the description spells layers that can be built in the blank
frame, and leaves the frame that is built. -/
theorem encode_eq_ok {final : Frame} :
    ((frame.encode config).result = .ok () ∧ (frame.encode config).state = final) ↔
      ∃ layers, Layer.ofDescription frame.text = .ok layers ∧
        Layer.build layers frame.reset = .ok final := by
  have description : Layer.ofDescription frame.text =
      (scan config.verbose frame.text).1 >>= fun tokens => tokens.mapM Layer.ofToken := by
    rw [Layer.ofDescription, scan_result config.verbose]
  rw [description]
  cases found : (scan config.verbose frame.text).1 with
  | error e =>
    rw [encode_of_unscanned found]
    constructor
    · rintro ⟨impossible, -⟩
      cases impossible
    · rintro ⟨layers, impossible, -⟩
      cases impossible
  | ok tokens =>
    obtain ⟨result, state⟩ := result_of_scanned found
    rw [result, state]
    constructor
    · rintro ⟨success, rfl⟩
      cases run : (encodeLayers config.verbose 0 tokens frame.reset).result with
      | error e =>
        rw [run] at success
        cases success
      | ok next =>
        obtain ⟨layers, spelled, built, -⟩ := build_of_encodeLayers run
        exact ⟨layers, spelled, built⟩
    · rintro ⟨layers, spelled, built⟩
      have run := @encodeLayers_of_build config.verbose 0 tokens layers frame.reset final spelled
        built
      rw [run.1, run.2]
      exact ⟨rfl, rfl⟩

end Frame

/-! ## What the encoder keeps -/

/-- Whether a frame may have become this one: only its contents have changed, and they lie in the
buffer. -/
structure Frame.Keeps (before after : Frame) : Prop where
  name : after.name = before.name
  text : after.text = before.text
  capacity : after.capacity = before.capacity
  used : after.dataLen ≤ after.capacity

namespace Frame.Keeps

variable {before between after : Frame}

theorem refl (used : before.dataLen ≤ before.capacity) : before.Keeps before :=
  ⟨rfl, rfl, rfl, used⟩

theorem trans (first : before.Keeps between) (second : between.Keeps after) :
    before.Keeps after where
  name := second.name.trans first.name
  text := second.text.trans first.text
  capacity := second.capacity.trans first.capacity
  used := second.used

end Frame.Keeps

section Kept

variable {layer : Layer} {frame inner : Frame}

theorem Layer.keeps_placed (room : layer.target frame.dataLen ≤ frame.capacity)
    (used : frame.dataLen ≤ frame.capacity) : frame.Keeps (layer.placed frame) where
  name := (layer.label_placed frame).1
  text := (layer.label_placed frame).2
  capacity := capacity_placed room used
  used := used_placed room used

theorem keeps_finishLength (used : frame.dataLen ≤ frame.capacity) :
    frame.Keeps (finishLength frame).state := by
  have adjusted : ∀ length event, frame.Keeps (adjustLength frame length event).state := by
    intro length event
    unfold adjustLength
    cases sized : frame.setLength length with
    | error e => exact .refl used
    | ok changed =>
      obtain ⟨fits, rfl⟩ := Frame.setLength_eq_ok.1 sized
      exact ⟨rfl, rfl, rfl, fits⟩
  unfold finishLength
  split
  · exact adjusted _ _
  · split
    · exact adjusted _ _
    · exact .refl used

/-- The way back of a layer, which may fail. -/
theorem keeps_leave {verbose : Bool} {index offset : Nat} {next : Option LayerKind}
    (room : offset + layer.length ≤ inner.capacity) (used : inner.dataLen ≤ inner.capacity) :
    inner.Keeps (leave verbose index layer offset next inner).state := by
  cases back : layer.settle offset next inner with
  | error e =>
    rw [leave_of_error back]
    exact .refl used
  | ok settled =>
    rw [leave_of_ok back]
    obtain ⟨-, rfl⟩ := (Layer.settle_eq_ok room used).1 back
    have length := @Layer.length_settledBuffer layer offset inner.dataLen next _ room used
    exact ⟨rfl, rfl, length, Nat.le_trans used (Nat.le_of_eq length.symm)⟩

/-- However far the encoder gets, it stays within the buffer. -/
theorem keeps_encodeLayers (verbose : Bool) (index : Nat) (tokens : List LayerToken)
    (used : frame.dataLen ≤ frame.capacity) :
    frame.Keeps (encodeLayers verbose index tokens frame).state := by
  induction tokens generalizing index frame with
  | nil =>
    rw [encodeLayers_nil, Outcome.state_after]
    cases finished : (finishLength frame).result with
    | error e =>
      rw [(Outcome.andThen_of_error finished).2]
      exact keeps_finishLength used
    | ok _ =>
      rw [(Outcome.andThen_of_ok finished).2]
      exact keeps_finishLength used
  | cons token rest ih =>
    cases read : Layer.ofToken token with
    | error e =>
      rw [encodeLayers_of_unread read]
      exact .refl used
    | ok layer =>
      cases down : layer.place frame with
      | error e =>
        rw [encodeLayers_of_unplaced read down]
        exact .refl used
      | ok reached =>
        obtain ⟨room, rfl⟩ := Layer.place_eq_ok.1 down
        have placed := Layer.keeps_placed room used
        have behind := placed.trans (ih (index + 1) placed.used)
        rw [encodeLayers_of_placed read down, Outcome.state_after]
        cases answer : (encodeLayers verbose (index + 1) rest (layer.placed frame)).result with
        | error e =>
          rw [(Outcome.andThen_of_error answer).2]
          exact behind
        | ok next =>
          rw [(Outcome.andThen_of_ok answer).2]
          refine behind.trans (keeps_leave ?_ behind.used)
          rw [behind.capacity]
          exact Layer.add_length_le_capacity room used

/-- The encoder keeps the name, the description and the capacity of a frame, whether it succeeds or
not. -/
theorem Frame.encode_keeps (config : Config) (frame : Frame) :
    frame.Keeps (frame.encode config).state := by
  have blank : frame.Keeps frame.reset := ⟨rfl, rfl, List.length_replicate, Nat.zero_le _⟩
  cases found : (scan config.verbose frame.text).1 with
  | error e =>
    rw [encode_of_unscanned found]
    exact blank
  | ok tokens =>
    rw [(result_of_scanned found).2]
    exact blank.trans (keeps_encodeLayers config.verbose 0 tokens blank.used)

end Kept

end FrameText
