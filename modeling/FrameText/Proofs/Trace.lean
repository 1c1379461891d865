import FrameText.Proofs.FrameLength
import Mathlib.Control.Monad.Basic

/-!
# Trace — what the encoder reports, and in which order

The encoder reports a layer when it comes to it and again when it leaves it.  It turns back only at
the end of the description, so that all that it reports on the way down stands in front of all that
it reports on the way back.

1. `Encoding.downEvents`, `Encoding.adjustment?`, `Encoding.upEvents` and `Encoding.closingEvents`
   spell out the reports of a run from its layers and its frame.
2. `Encoding.log_of_build` is the whole log of a run that succeeds, `Encoding.Calls.log_of_stop`
   that of a run that stops on its way down, and `Encoding.exists_downEvents` says how every log
   starts.
3. `Encoding.quieted_encodeLayers`: a run that reports every layer differs from one that does not in
   its log alone, and there in a known way.
4. `Frame.log_of_encode` puts these together for a description.
-/

namespace FrameText

open Encoding

/-! ## Definitions -/

namespace Event

/-- Whether the encoder reports that it came to a layer. -/
def isEntry (event : Event) : Bool :=
  match event.notice with
  | .layerEntered _ _ _ _ => true
  | _ => false

/-- Whether the encoder reports that it left a layer. -/
def isReturn (event : Event) : Bool :=
  match event.notice with
  | .layerLeft _ _ _ _ => true
  | _ => false

/-- The event where single layers are not to be seen: what is said of a layer has the lowest level,
and the length of a datagram is not said. -/
def quieted? (event : Event) : Option Event :=
  match event.notice with
  | .layerFound _ _ | .layerEntered _ _ _ _ | .layerLeft _ _ _ _ =>
    some { event with level := .trace }
  | .datagramLength _ => none
  | _ => some event

end Event

/-- The outcome as it is where single layers are not to be seen. -/
def Outcome.quieted {σ α : Type} (outcome : Outcome σ α) : Outcome σ α :=
  { outcome with log := outcome.log.filterMap Event.quieted? }

namespace Encoding

/-- The reports of the layers that are found in a description, the first of which has this index. -/
def foundEvents (verbose : Bool) (index : Nat) (texts : List Text) : List Event :=
  texts.mapIdx fun place text =>
    ⟨if verbose then .info else .trace, .layerFound (index + place) text⟩

/-- The reports on the way down, if these layers are placed and the one behind them is reached: the
index of each, the offset at which it starts, its kind and its parameters. -/
def downEvents (verbose : Bool) (index offset : Nat) (tokens : List LayerToken)
    (placed : List Layer) : List Event :=
  (List.range (placed.length + 1)).map fun place =>
    ⟨if verbose then .info else .trace,
      .layerEntered (index + place) (Layer.reach offset (placed.take place))
        (tokens[place]?.map LayerToken.kind) ((tokens[place]?.map LayerToken.params).getD [])⟩

/-- The report at the end of the description, where the frame may be too short or too long. -/
def adjustment? (name : Text) (length : Nat) : Option Event :=
  if length < Limits.minFrameLength then
    some ⟨.debug, .frameTooShort name length Limits.minFrameLength⟩
  else if Limits.maxFrameLength < length then
    some ⟨.warn, .frameTooLong name length Limits.maxFrameLength⟩
  else
    none

/-- The reports of a layer that the encoder leaves, or of the end of the description.  IPv4 and UDP
layers reach to the end of the frame, and the length of a datagram may be said first. -/
def returns (verbose : Bool) (index : Nat) (layer : Option Layer) (offset frameLength : Nat) :
    List Event :=
  let left (length : Nat) : Event :=
    ⟨if verbose then .info else .trace, .layerLeft index length frameLength (layer.map Layer.kind)⟩
  match layer with
  | none => [left 0]
  | some (.ipv4 _ _) => [left (frameLength - offset)]
  | some (.udp _ _) =>
    (if verbose then [⟨.info, .datagramLength (frameLength - offset)⟩] else []) ++
      [left (frameLength - offset)]
  | some layer => [left (layer.target offset - offset)]

/-- The reports on the way back, from the end of the description to the first of these layers. -/
def upEvents (verbose : Bool) (index offset : Nat) (layers : List Layer) (frameLength : Nat) :
    List Event :=
  (List.range (layers.length + 1)).reverse.flatMap fun place =>
    returns verbose (index + place) layers[place]? (Layer.reach offset (layers.take place))
      frameLength

/-- The reports of a frame that is encoded: how long it is, and its bytes if they are to be seen. -/
def closingEvents (dump : Bool) (name : Text) (length : Nat) (data : Bytes) : List Event :=
  ⟨.debug, .frameEncoded name length⟩ ::
    if dump then [⟨.info, .frameDumped name data⟩] else []

end Encoding

/-! ## Logs -/

namespace Outcome

variable {σ α β : Type} {outcome : Outcome σ α} {next : α → σ → Outcome σ β}

theorem log_andThen_of_ok {a : α} (h : outcome.result = .ok a) :
    (outcome.andThen next).log = outcome.log ++ (next a outcome.state).log := by
  simp [andThen, h]

theorem log_andThen_of_error {e : Error} (h : outcome.result = .error e) :
    (outcome.andThen next).log = outcome.log := by
  simp [andThen, h]

@[simp] theorem log_after (events : List Event) :
    (outcome.after events).log = events ++ outcome.log := rfl

/-- Another operation adds its events behind those that are there, if it is reached. -/
theorem exists_log_andThen (outcome : Outcome σ α) (next : α → σ → Outcome σ β) {p : Event → Prop}
    (behind : ∀ a, ∀ event ∈ (next a outcome.state).log, p event) :
    ∃ later, (outcome.andThen next).log = outcome.log ++ later ∧ ∀ event ∈ later, p event := by
  cases answer : outcome.result with
  | error e =>
    exact ⟨[], by rw [log_andThen_of_error answer, List.append_nil], by simp⟩
  | ok a => exact ⟨_, log_andThen_of_ok answer, behind a⟩

theorem quieted_andThen (outcome : Outcome σ α) (next : α → σ → Outcome σ β) :
    (outcome.andThen next).quieted =
      outcome.quieted.andThen fun a state => (next a state).quieted := by
  rcases outcome with ⟨_ | a, state, log⟩
  · rfl
  · simp [quieted, andThen, List.filterMap_append]

theorem quieted_after (events : List Event) :
    (outcome.after events).quieted = outcome.quieted.after (events.filterMap Event.quieted?) := by
  simp [quieted, after, List.filterMap_append]

end Outcome

namespace Encoding

variable {verbose : Bool} {index offset : Nat} {token : LayerToken} {tokens rest : List LayerToken}
  {layer : Layer} {layers placed : List Layer} {frame final : Frame}

theorem foundEvents_cons (text : Text) (texts : List Text) :
    foundEvents verbose index (text :: texts) =
      ⟨layerLevel verbose, .layerFound index text⟩ :: foundEvents verbose (index + 1) texts := by
  simp [foundEvents, layerLevel, List.mapIdx_cons, Nat.add_assoc, Nat.add_comm 1]

theorem downEvents_nil (tokens : List LayerToken) :
    downEvents verbose index offset tokens [] = [entry verbose index offset tokens.head?] := by
  cases tokens <;> rfl

theorem downEvents_cons :
    downEvents verbose index offset (token :: rest) (layer :: placed) =
      entry verbose index offset (some token) ::
        downEvents verbose (index + 1) (layer.target offset) rest placed := by
  rw [downEvents, List.length_cons, List.range_succ_eq_map]
  simp [downEvents, entry, layerLevel, Layer.reach, Nat.add_assoc, Nat.add_comm 1]

theorem returns_some (frameLength : Nat) :
    returns verbose index (some layer) offset frameLength =
      leaveEvents verbose index layer offset frameLength := by
  cases layer with
  | udp _ _ => cases verbose <;> rfl
  | _ => rfl

theorem finishEvents_eq (config : Config) {name : Text} (named : final.name = name) :
    finishEvents config final = closingEvents config.dump name final.dataLen final.data := by
  subst named
  unfold finishEvents closingEvents
  cases config.dump <;> rfl

theorem upEvents_nil (frameLength : Nat) :
    upEvents verbose index offset [] frameLength =
      [⟨layerLevel verbose, .layerLeft index 0 frameLength none⟩] := rfl

theorem upEvents_cons (frameLength : Nat) :
    upEvents verbose index offset (layer :: layers) frameLength =
      upEvents verbose (index + 1) (layer.target offset) layers frameLength ++
        leaveEvents verbose index layer offset frameLength := by
  rw [upEvents, List.length_cons, List.range_succ_eq_map]
  simp [upEvents, returns_some, Layer.reach, List.flatMap_append, Nat.add_assoc, Nat.add_comm 1,
    ← List.map_reverse, List.flatMap_map]

theorem log_finishLength (frame : Frame) :
    (finishLength frame).log = (adjustment? frame.name frame.dataLen).toList := by
  have adjusted : ∀ length event, (adjustLength frame length event).log = [event] := by
    intro length event
    unfold adjustLength
    cases frame.setLength length <;> rfl
  unfold finishLength adjustment?
  split
  · exact adjusted _ _
  · split
    · exact adjusted _ _
    · rfl

/-! ## Runs of the encoder -/

/-- A run that succeeds reports the way down to the end, what happens to the length there, and the
way back with the length of the finished frame. -/
theorem log_of_build (spelled : tokens.mapM Layer.ofToken = .ok layers)
    (built : Layer.build layers frame = .ok final) (used : frame.dataLen ≤ frame.capacity) :
    (encodeLayers verbose index tokens frame).log =
      downEvents verbose index frame.dataLen tokens layers ++
        ((adjustment? frame.name (Layer.reach frame.dataLen layers)).toList ++
          upEvents verbose index frame.dataLen layers final.dataLen) := by
  induction tokens generalizing index layers frame final with
  | nil =>
    obtain rfl : [] = layers := Except.ok.inj spelled
    rcases finishLength_eq frame with ⟨fine, finished⟩ | ⟨e, -, failed⟩
    · obtain rfl : (finishLength frame).state = final :=
        Except.ok.inj (finished.symm.trans built)
      rw [encodeLayers_nil, Outcome.log_after, Outcome.log_andThen_of_ok fine, log_finishLength,
        downEvents_nil, upEvents_nil]
      rfl
    · cases failed.symm.trans built
  | cons token rest ih =>
    rcases mapM_cons_eq_ok.1 spelled with ⟨layer, behind, read, others, rfl⟩
    rcases (Layer.build_cons_eq_ok used).1 built with ⟨room, single, inner, innerBuilt, rfl⟩
    rcases Layer.build_behind room used innerBuilt with ⟨innerUsed, -, header⟩
    have run := @encodeLayers_of_build verbose (index + 1) rest behind _ inner others innerBuilt
    have back := (Layer.settle_eq_ok header innerUsed).2 ⟨single, rfl⟩
    have reported := @ih (index + 1) _ _ _ others innerBuilt (Layer.used_placed room used)
    rw [Layer.dataLen_placed, (layer.label_placed frame).1] at reported
    rw [encodeLayers_of_placed read (Layer.place_eq room), Outcome.log_after,
      Outcome.log_andThen_of_ok run.1, run.2, reported, downEvents_cons, upEvents_cons, leave, back]
    simp only [List.append_assoc, List.cons_append, List.nil_append]
    rfl

/-- The way back enters no layer. -/
theorem isEntry_of_leave (verbose : Bool) (index : Nat) (layer : Layer) (offset : Nat)
    (next : Option LayerKind) (inner : Frame) :
    ∀ event ∈ (leave verbose index layer offset next inner).log, event.isEntry = false := by
  unfold leave
  cases layer.settle offset next inner with
  | error e => simp
  | ok settled =>
    cases layer with
    | udp _ _ => cases verbose <;> simp [leaveEvents, Event.isEntry]
    | _ => simp [leaveEvents, Event.isEntry]

theorem isEntry_of_turn (verbose : Bool) (index : Nat) (finished : Frame) :
    ∀ event ∈ (turn verbose index finished).log, event.isEntry = false := by
  simp [turn, Event.isEntry]

theorem isEntry_of_finishLength :
    ∀ event ∈ (finishLength frame).log, event.isEntry = false := by
  rw [log_finishLength, adjustment?]
  split
  · simp [Event.isEntry]
  · split <;> simp [Event.isEntry]

/-- Every run reports the way down first, as far as it comes, and comes to no layer afterwards. -/
theorem exists_downEvents (verbose : Bool) (index : Nat) (tokens : List LayerToken)
    (frame : Frame) :
    ∃ placed others, (tokens.take placed.length).mapM Layer.ofToken = .ok placed ∧
      (encodeLayers verbose index tokens frame).log =
        downEvents verbose index frame.dataLen tokens placed ++ others ∧
      ∀ event ∈ others, event.isEntry = false := by
  induction tokens generalizing index frame with
  | nil =>
    obtain ⟨later, whole, left⟩ := (finishLength frame).exists_log_andThen
      (fun _ => turn verbose index) fun _ => isEntry_of_turn verbose index _
    refine ⟨[], (finishLength frame).log ++ later, rfl, ?_, ?_⟩
    · rw [encodeLayers_nil, Outcome.log_after, whole, downEvents_nil]
      rfl
    · intro event member
      rcases List.mem_append.1 member with before | behind
      · exact isEntry_of_finishLength event before
      · exact left event behind
  | cons token rest ih =>
    cases read : Layer.ofToken token with
    | error e =>
      rw [encodeLayers_of_unread read]
      exact ⟨[], [], rfl, by rw [downEvents_nil]; rfl, by simp⟩
    | ok layer =>
      cases down : layer.place frame with
      | error e =>
        rw [encodeLayers_of_unplaced read down]
        exact ⟨[], [], rfl, by rw [downEvents_nil]; rfl, by simp⟩
      | ok reached =>
        obtain ⟨placed, others, spelled, log, free⟩ := ih (index + 1) reached
        have length : reached.dataLen = layer.target frame.dataLen := by
          rw [(Layer.place_eq_ok.1 down).2, Layer.dataLen_placed]
        obtain ⟨later, whole, left⟩ :=
          (encodeLayers verbose (index + 1) rest reached).exists_log_andThen
            (leave verbose index layer frame.dataLen)
            fun next => isEntry_of_leave verbose index layer frame.dataLen next _
        refine ⟨layer :: placed, others ++ later, ?_, ?_, ?_⟩
        · exact mapM_cons_eq_ok.2 ⟨layer, placed, read, spelled, rfl⟩
        · rw [encodeLayers_of_placed read down, Outcome.log_after, whole, log, downEvents_cons,
            length]
          simp
        · intro event member
          rcases List.mem_append.1 member with before | behind
          · exact free event before
          · exact left event behind

/-- The way down stops at a layer whose parameters cannot be read. -/
theorem Calls.eq_of_unread {inner : Call} {e : Error} (unread : Layer.ofToken token = .error e)
    (calls : Calls ⟨index, token :: rest, frame⟩ inner) :
    inner = ⟨index, token :: rest, frame⟩ := by
  cases calls with
  | refl => rfl
  | step read => cases unread.symm.trans read

/-- A run whose way down stops at a call reports the layers down to the one of that call, and the
end of the description if that is where it stops. -/
theorem Calls.log_of_stop {outer inner : Call} {e : Error} (calls : Calls outer inner)
    (last : ∀ deeper, Calls inner deeper → deeper = inner)
    (failed : (inner.outcome verbose).result = .error e) :
    (outer.outcome verbose).result = .error e ∧
      ∃ placed, inner.index = outer.index + placed.length ∧
        (outer.tokens.take placed.length).mapM Layer.ofToken = .ok placed ∧
        (outer.outcome verbose).log =
          downEvents verbose outer.index outer.frame.dataLen outer.tokens placed ++
            if placed.length = outer.tokens.length then
              (adjustment? outer.frame.name (Layer.reach outer.frame.dataLen placed)).toList
            else [] := by
  induction calls with
  | refl call =>
    refine ⟨failed, [], rfl, rfl, ?_⟩
    obtain ⟨index, tokens, frame⟩ := call
    simp only [Call.outcome] at failed ⊢
    cases tokens with
    | nil =>
      rw [encodeLayers_nil] at failed ⊢
      cases finished : (finishLength frame).result with
      | error fault =>
        rw [Outcome.log_after, Outcome.log_andThen_of_error finished, log_finishLength,
          downEvents_nil]
        rfl
      | ok _ =>
        rw [Outcome.result_after, (Outcome.andThen_of_ok finished).1] at failed
        cases failed
    | cons token rest =>
      cases read : Layer.ofToken token with
      | error fault =>
        rw [encodeLayers_of_unread read, downEvents_nil]
        rfl
      | ok layer =>
        cases down : layer.place frame with
        | error fault =>
          rw [encodeLayers_of_unplaced read down, downEvents_nil]
          rfl
        | ok reached =>
          have deeper := last _ (.step read down (.refl _))
          simp at deeper
  | @step index token rest frame layer reached inner read down _ ih =>
    obtain ⟨stopped, placed, place, spelled, log⟩ := ih last failed
    obtain ⟨-, rfl⟩ := Layer.place_eq_ok.1 down
    simp only [Call.outcome] at stopped log ⊢
    rw [encodeLayers_of_placed read down]
    refine ⟨(Outcome.andThen_of_error stopped).1, layer :: placed, ?_, ?_, ?_⟩
    · rw [place, List.length_cons, Nat.add_assoc, Nat.add_comm 1]
    · exact mapM_cons_eq_ok.2 ⟨layer, placed, read, spelled, rfl⟩
    · rw [Outcome.log_after, Outcome.log_andThen_of_error stopped, log, downEvents_cons,
        Layer.dataLen_placed, (layer.label_placed frame).1]
      simp [Layer.reach]

/-! ## Reports of single layers -/

theorem quieted_finishLength (frame : Frame) :
    (finishLength frame).quieted = finishLength frame := by
  have same : (finishLength frame).log.filterMap Event.quieted? = (finishLength frame).log := by
    rw [log_finishLength, adjustment?]
    split
    · rfl
    · split <;> rfl
  rw [Outcome.quieted, same]

theorem quieted_leave (next : Option LayerKind) (inner : Frame) :
    (leave true index layer offset next inner).quieted =
      leave false index layer offset next inner := by
  unfold leave
  cases layer.settle offset next inner with
  | error e => rfl
  | ok settled => cases layer <;> rfl

/-- A run that reports every layer is the run that does not, but for its log. -/
theorem quieted_encodeLayers (index : Nat) (tokens : List LayerToken) (frame : Frame) :
    (encodeLayers true index tokens frame).quieted = encodeLayers false index tokens frame := by
  induction tokens generalizing index frame with
  | nil =>
    rw [encodeLayers_nil, encodeLayers_nil, Outcome.quieted_after, Outcome.quieted_andThen,
      quieted_finishLength]
    rfl
  | cons token rest ih =>
    cases read : Layer.ofToken token with
    | error e =>
      rw [encodeLayers_of_unread read, encodeLayers_of_unread read]
      rfl
    | ok layer =>
      cases down : layer.place frame with
      | error e =>
        rw [encodeLayers_of_unplaced read down, encodeLayers_of_unplaced read down]
        rfl
      | ok reached =>
        rw [encodeLayers_of_placed read down, encodeLayers_of_placed read down,
          Outcome.quieted_after, Outcome.quieted_andThen, ih]
        simp only [quieted_leave]
        rfl

/-! ## Recognised layers -/

theorem scanLayers_of_known {texts : List Text}
    (known : texts.map LayerToken.ofText? = tokens.map some) :
    scanLayers verbose index texts = (.ok tokens, foundEvents verbose index texts) := by
  induction texts generalizing index tokens with
  | nil =>
    obtain rfl : tokens = [] := List.map_eq_nil_iff.1 known.symm
    rfl
  | cons text texts ih =>
    cases tokens with
    | nil => cases known
    | cons token rest =>
      rw [List.map_cons, List.map_cons, List.cons.injEq] at known
      rw [scanLayers, known.1, ih known.2, foundEvents_cons]
      rfl

/-- What is found in a description, all layers of which are known. -/
theorem scan_of_known {text : Text}
    (known : (layerTexts text).map LayerToken.ofText? = tokens.map some) :
    scan verbose text =
      if Limits.maxLayers < tokens.length then (.error (.tooManyLayers Limits.maxLayers), [])
      else if tokens = [] then (.error (.parse .noLayers), [])
      else (.ok tokens, foundEvents verbose 0 (layerTexts text)) := by
  have count : (layerTexts text).length = tokens.length := by
    simpa using congrArg List.length known
  have found := @scanLayers_of_known verbose 0 tokens _ known
  unfold scan splitLayers
  simp only
  rw [count]
  by_cases many : Limits.maxLayers < tokens.length
  · rw [if_pos many, if_pos many]
  · rw [if_neg many, if_neg many]
    cases texts : layerTexts text with
    | nil =>
      rw [texts] at count
      rw [if_pos (List.length_eq_zero_iff.1 count.symm)]
    | cons first rest =>
      have nonempty : tokens ≠ [] := by
        rintro rfl
        rw [texts] at count
        cases count
      rw [texts] at found
      rw [if_neg nonempty]
      exact found

theorem quieted_scanLayers (index : Nat) (texts : List Text) :
    (scanLayers true index texts).2.filterMap Event.quieted? =
      (scanLayers false index texts).2 := by
  induction texts generalizing index with
  | nil => rfl
  | cons text texts ih =>
    unfold scanLayers
    cases LayerToken.ofText? text with
    | none => rfl
    | some token => exact congrArg (⟨.trace, .layerFound index text⟩ :: ·) (ih (index + 1))

theorem quieted_scan (text : Text) :
    (scan true text).2.filterMap Event.quieted? = (scan false text).2 := by
  unfold scan
  split
  · rfl
  · rfl
  · exact quieted_scanLayers _ _

end Encoding

/-! ## Descriptions -/

namespace Frame

variable {config : Config} {frame : Frame} {tokens : List LayerToken}

/-- The encoder reports all layers of a description before it starts with the first of them. -/
theorem encode_of_known (known : (layerTexts frame.text).map LayerToken.ofText? = tokens.map some)
    (least : 1 ≤ tokens.length) (most : tokens.length ≤ 31) :
    frame.encode config =
      ((encodeLayers config.verbose 0 tokens frame.reset).andThen fun _ encoded =>
        ⟨.ok (), encoded, finishEvents config encoded⟩).after
          (foundEvents config.verbose 0 (layerTexts frame.text)) := by
  have few : ¬ Limits.maxLayers < tokens.length := Nat.not_lt_of_le most
  have found := @scan_of_known config.verbose tokens frame.text known
  rw [if_neg few, if_neg (List.length_pos_iff.1 least)] at found
  rw [encode_of_scanned (congrArg Prod.fst found), found]

/-- Whether single layers are reported is seen in the log alone. -/
theorem quieted_encode (config : Config) (frame : Frame) :
    (frame.encode { config with verbose := true }).quieted =
      frame.encode { config with verbose := false } := by
  have closing : ∀ encoded, (finishEvents { config with verbose := true } encoded).filterMap
      Event.quieted? = finishEvents { config with verbose := false } encoded := by
    intro encoded
    unfold finishEvents
    cases config.dump <;> rfl
  have same := scan_result true frame.text
  cases found : (scan false frame.text).1 with
  | error e =>
    rw [@encode_of_unscanned { config with verbose := true } frame e (same.trans found),
      @encode_of_unscanned { config with verbose := false } frame e found, ← quieted_scan]
    rfl
  | ok tokens =>
    rw [@encode_of_scanned { config with verbose := true } frame tokens (same.trans found),
      @encode_of_scanned { config with verbose := false } frame tokens found, ← quieted_scan]
    simp only [Outcome.quieted_after, Outcome.quieted_andThen, quieted_encodeLayers]
    simp only [Outcome.quieted, closing]

/-- No layer is left on the way down. -/
theorem isReturn_of_downEvents {verbose : Bool} {texts : List Text} {placed : List Layer} :
    ∀ event ∈ foundEvents verbose 0 texts ++ downEvents verbose 0 0 tokens placed,
      event.isReturn = false := by
  intro event member
  rcases List.mem_append.1 member with found | down
  · obtain ⟨place, inside, rfl⟩ := List.mem_mapIdx.1 found
    rfl
  · obtain ⟨place, -, rfl⟩ := List.mem_map.1 down
    rfl

theorem isReturn_of_adjustment {name : Text} {length : Nat} :
    ∀ event ∈ (adjustment? name length).toList, event.isReturn = false := by
  unfold adjustment?
  split
  · simp [Event.isReturn]
  · split <;> simp [Event.isReturn]

theorem isEntry_of_finishEvents (config : Config) (encoded : Frame) :
    ∀ event ∈ finishEvents config encoded, event.isEntry = false := by
  unfold finishEvents
  cases config.dump <;> simp [Event.isEntry]

/-- Every log starts with all layers of the description and the way down, as far as it comes. -/
theorem exists_log_of_encode (config : Config)
    (known : (layerTexts frame.text).map LayerToken.ofText? = tokens.map some)
    (least : 1 ≤ tokens.length) (most : tokens.length ≤ 31) :
    ∃ placed others, (tokens.take placed.length).mapM Layer.ofToken = .ok placed ∧
      (frame.encode config).log = foundEvents config.verbose 0 (layerTexts frame.text) ++
        downEvents config.verbose 0 0 tokens placed ++ others ∧
      ∀ event ∈ others, event.isEntry = false := by
  obtain ⟨placed, others, spelled, run, free⟩ :=
    exists_downEvents config.verbose 0 tokens frame.reset
  obtain ⟨later, closed, closing⟩ :=
    (encodeLayers config.verbose 0 tokens frame.reset).exists_log_andThen
      (fun _ encoded => (⟨.ok (), encoded, finishEvents config encoded⟩ : Outcome Frame Unit))
      fun _ => isEntry_of_finishEvents config _
  refine ⟨placed, others ++ later, spelled, ?_, ?_⟩
  · rw [encode_of_known known least most, Outcome.log_after, closed, run]
    simp only [List.append_assoc]
    rfl
  · intro event member
    rcases List.mem_append.1 member with before | behind
    · exact free event before
    · exact closing event behind

/-- The log of an encoder that succeeds, from beginning to end. -/
theorem log_of_success
    (known : (layerTexts frame.text).map LayerToken.ofText? = tokens.map some)
    (least : 1 ≤ tokens.length) (most : tokens.length ≤ 31)
    (success : (frame.encode config).result = .ok ()) :
    ∃ layers final, tokens.mapM Layer.ofToken = .ok layers ∧ (frame.encode config).state = final ∧
      (frame.encode config).log = foundEvents config.verbose 0 (layerTexts frame.text) ++
        downEvents config.verbose 0 0 tokens layers ++
        (adjustment? frame.name (Layer.reach 0 layers)).toList ++
        upEvents config.verbose 0 0 layers final.dataLen ++
        closingEvents config.dump frame.name final.dataLen final.data := by
  have used : frame.reset.dataLen ≤ frame.reset.capacity := Nat.zero_le _
  have named := (frame.encode_keeps config).name
  rw [encode_of_known known least most] at success named ⊢
  cases run : (encodeLayers config.verbose 0 tokens frame.reset).result with
  | error e =>
    rw [Outcome.result_after, (Outcome.andThen_of_error run).1] at success
    cases success
  | ok next =>
    obtain ⟨layers, spelled, built, -⟩ := build_of_encodeLayers run
    rw [Outcome.state_after, (Outcome.andThen_of_ok run).2] at named
    refine ⟨layers, _, spelled, (Outcome.andThen_of_ok run).2, ?_⟩
    rw [Outcome.log_after, Outcome.log_andThen_of_ok run, log_of_build spelled built used,
      ← finishEvents_eq config named]
    simp only [List.append_assoc]
    rfl

/-- The log of an encoder that stops on the way down. -/
theorem log_of_stop {call : Call} {e : Error}
    (known : (layerTexts frame.text).map LayerToken.ofText? = tokens.map some)
    (least : 1 ≤ tokens.length) (most : tokens.length ≤ 31)
    (calls : Calls ⟨0, tokens, frame.reset⟩ call)
    (last : ∀ deeper, Calls call deeper → deeper = call)
    (failed : (call.outcome config.verbose).result = .error e) :
    (frame.encode config).result = .error e ∧
      ∃ placed, placed.length = call.index ∧
        (tokens.take call.index).mapM Layer.ofToken = .ok placed ∧
        (frame.encode config).log = foundEvents config.verbose 0 (layerTexts frame.text) ++
          downEvents config.verbose 0 0 tokens placed ++
          (if call.index = tokens.length then
            (adjustment? frame.name (Layer.reach 0 placed)).toList
          else []) ∧
        ∀ event ∈ (frame.encode config).log, event.isReturn = false := by
  obtain ⟨stopped, placed, place, spelled, log⟩ := calls.log_of_stop last failed
  simp only [Call.outcome, Nat.zero_add] at stopped log place
  have whole : (frame.encode config).log =
      foundEvents config.verbose 0 (layerTexts frame.text) ++
        downEvents config.verbose 0 0 tokens placed ++
        (if call.index = tokens.length then
          (adjustment? frame.name (Layer.reach 0 placed)).toList
        else []) := by
    rw [encode_of_known known least most, Outcome.log_after, Outcome.log_andThen_of_error stopped,
      List.append_assoc, place]
    exact congrArg _ log
  refine ⟨?_, placed, place.symm, ?_, whole, ?_⟩
  · rw [encode_of_known known least most]
    exact (Outcome.andThen_of_error stopped).1
  · rw [place]
    exact spelled
  · rw [whole]
    intro event member
    rcases List.mem_append.1 member with down | ended
    · exact isReturn_of_downEvents event down
    · split at ended
      · exact isReturn_of_adjustment event ended
      · cases ended

/-- The encoder reports all layers of a description, then the layers that it comes to, each with the
length that the layers in front of it reach, and no layer that it leaves stands in front of one that
it comes to.  If it succeeds, it has come to all layers and to the end, brings the frame to its
length, leaves the layers in reverse order with that length, and reports the frame, with its bytes
if they are to be seen.  If it stops at a layer before it comes to the next one, it leaves none.
Where it does not report single layers, the log is the same but for their level and for the lengths
of datagrams. -/
theorem log_of_encode (config : Config) {frame : Frame} {tokens : List LayerToken}
    (known : (layerTexts frame.text).map LayerToken.ofText? = tokens.map some)
    (least : 1 ≤ tokens.length) (most : tokens.length ≤ 31) :
    let found := foundEvents config.verbose 0 (layerTexts frame.text)
    let log := (frame.encode config).log
    (∃ placed others, (tokens.take placed.length).mapM Layer.ofToken = .ok placed ∧
        log = found ++ downEvents config.verbose 0 0 tokens placed ++ others ∧
        ∀ event ∈ others, event.isEntry = false) ∧
      (log.Pairwise fun earlier later => earlier.isReturn = true → later.isEntry = false) ∧
      ((frame.encode config).result = .ok () →
        ∃ layers final, tokens.mapM Layer.ofToken = .ok layers ∧
          (frame.encode config).state = final ∧
          log = found ++ downEvents config.verbose 0 0 tokens layers ++
            (adjustment? frame.name (Layer.reach 0 layers)).toList ++
            upEvents config.verbose 0 0 layers final.dataLen ++
            closingEvents config.dump frame.name final.dataLen final.data) ∧
      (∀ call e, Calls ⟨0, tokens, frame.reset⟩ call →
        (∀ deeper, Calls call deeper → deeper = call) →
        (call.outcome config.verbose).result = .error e →
          (frame.encode config).result = .error e ∧
          ∃ placed, placed.length = call.index ∧
            (tokens.take call.index).mapM Layer.ofToken = .ok placed ∧
            log = found ++ downEvents config.verbose 0 0 tokens placed ++
              (if call.index = tokens.length then
                (adjustment? frame.name (Layer.reach 0 placed)).toList
              else []) ∧
            ∀ event ∈ log, event.isReturn = false) ∧
      (frame.encode { config with verbose := true }).log.filterMap Event.quieted? =
        (frame.encode { config with verbose := false }).log := by
  intro found log
  have general := exists_log_of_encode config known least most
  refine ⟨general, ?_, log_of_success known least most,
    fun call e calls last failed => log_of_stop known least most calls last failed,
    congrArg Outcome.log (quieted_encode config frame)⟩
  -- Nothing returns on the way down, and nothing is entered behind it.
  obtain ⟨placed, others, -, split, free⟩ := general
  have down : ∀ earlier ∈ found ++ downEvents config.verbose 0 0 tokens placed,
      ∀ later : Event, earlier.isReturn = true → later.isEntry = false := by
    intro earlier member later returned
    rw [isReturn_of_downEvents earlier member] at returned
    cases returned
  show (frame.encode config).log.Pairwise _
  rw [split]
  refine List.pairwise_append.2 ⟨?_, ?_, ?_⟩
  · exact List.pairwise_of_forall_mem_list fun earlier member later _ => down earlier member later
  · exact List.pairwise_of_forall_mem_list fun _ _ later member _ => free later member
  · exact fun earlier member later _ => down earlier member later

/-- A datagram that is too short for Ethernet, reported layer by layer, two bytes whose frame is to
be seen, and a description whose second layer cannot be read. -/
theorem log_of_encode_datagram :
    let frame := Frame.new "ping".toList "Ether()/ipv4()/UDP()".toList 64
    let bytes := Frame.new "bytes".toList "Raw('hi')".toList 60
    let broken := Frame.new "ping".toList "Ether()/UDP(port=1)/TCP()".toList 64
    (frame.encode { verbose := true }).result = .ok () ∧
      (frame.encode { verbose := true }).log =
        [⟨.info, .layerFound 0 "Ether()".toList⟩, ⟨.info, .layerFound 1 "ipv4()".toList⟩,
          ⟨.info, .layerFound 2 "UDP()".toList⟩,
          ⟨.info, .layerEntered 0 0 (some .ether) "()".toList⟩,
          ⟨.info, .layerEntered 1 14 (some .ipv4) "()".toList⟩,
          ⟨.info, .layerEntered 2 34 (some .udp) "()".toList⟩,
          ⟨.info, .layerEntered 3 42 none []⟩,
          ⟨.debug, .frameTooShort "ping".toList 42 60⟩,
          ⟨.info, .layerLeft 3 0 60 none⟩,
          ⟨.info, .datagramLength 26⟩, ⟨.info, .layerLeft 2 26 60 (some .udp)⟩,
          ⟨.info, .layerLeft 1 46 60 (some .ipv4)⟩, ⟨.info, .layerLeft 0 14 60 (some .ether)⟩,
          ⟨.debug, .frameEncoded "ping".toList 60⟩] ∧
      (bytes.encode { dump := true }).result = .ok () ∧
      (bytes.encode { dump := true }).log =
        [⟨.trace, .layerFound 0 "Raw('hi')".toList⟩,
          ⟨.trace, .layerEntered 0 0 (some .raw) "('hi')".toList⟩,
          ⟨.trace, .layerEntered 1 2 none []⟩, ⟨.debug, .frameTooShort "bytes".toList 2 60⟩,
          ⟨.trace, .layerLeft 1 0 60 none⟩, ⟨.trace, .layerLeft 0 2 60 (some .raw)⟩,
          ⟨.debug, .frameEncoded "bytes".toList 60⟩,
          ⟨.info, .frameDumped "bytes".toList ([0x68, 0x69] ++ List.replicate 58 0)⟩] ∧
      (broken.encode {}).log =
        [⟨.trace, .layerFound 0 "Ether()".toList⟩, ⟨.trace, .layerFound 1 "UDP(port=1)".toList⟩,
          ⟨.trace, .layerFound 2 "TCP()".toList⟩,
          ⟨.trace, .layerEntered 0 0 (some .ether) "()".toList⟩,
          ⟨.trace, .layerEntered 1 14 (some .udp) "(port=1)".toList⟩] := by
  intro frame bytes broken
  have success : (frame.encode { verbose := true }).result = .ok () := by decide +kernel
  have dumped : (bytes.encode { dump := true }).result = .ok () := by decide +kernel
  refine ⟨success, ?_, dumped, ?_, ?_⟩
  · let tokens : List LayerToken :=
      [⟨.ether, "()".toList⟩, ⟨.ipv4, "()".toList⟩, ⟨.udp, "()".toList⟩]
    have known : (layerTexts frame.text).map LayerToken.ofText? = tokens.map some := by
      decide +kernel
    have read : tokens.mapM Layer.ofToken = .ok [.ether {}, .ipv4 {} none, .udp none none] := by
      decide +kernel
    have length : (frame.encode { verbose := true }).state.dataLen = 60 := by decide +kernel
    obtain ⟨-, -, finished, -⟩ :=
      log_of_encode { verbose := true } known (by decide) (by decide)
    obtain ⟨layers, final, spelled, rfl, log⟩ := finished success
    obtain rfl := Except.ok.inj (spelled.symm.trans read)
    rw [length] at log
    exact log.trans (by decide +kernel)
  · let tokens : List LayerToken := [⟨.raw, "('hi')".toList⟩]
    have known : (layerTexts bytes.text).map LayerToken.ofText? = tokens.map some := by
      decide +kernel
    have read : tokens.mapM Layer.ofToken = .ok [.raw [0x68, 0x69]] := by decide +kernel
    have length : (bytes.encode { dump := true }).state.dataLen = 60 := by decide +kernel
    have data : (bytes.encode { dump := true }).state.data =
        [0x68, 0x69] ++ List.replicate 58 0 := by
      decide +kernel
    obtain ⟨-, -, finished, -⟩ := log_of_encode { dump := true } known (by decide) (by decide)
    obtain ⟨layers, final, spelled, rfl, log⟩ := finished dumped
    obtain rfl := Except.ok.inj (spelled.symm.trans read)
    rw [length, data] at log
    exact log.trans (by decide +kernel)
  · let tokens : List LayerToken :=
      [⟨.ether, "()".toList⟩, ⟨.udp, "(port=1)".toList⟩, ⟨.tcp, "()".toList⟩]
    have known : (layerTexts broken.text).map LayerToken.ofText? = tokens.map some := by
      decide +kernel
    have unread : Layer.ofToken ⟨.udp, "(port=1)".toList⟩ =
        .error (.invalidKey .udp "port".toList) := by
      decide +kernel
    let stop : Call := ⟨1, tokens.drop 1, (Layer.ether {}).placed broken.reset⟩
    have first : Layer.ofToken ⟨.ether, "()".toList⟩ = .ok (.ether {}) := by decide +kernel
    have calls : Calls ⟨0, tokens, broken.reset⟩ stop :=
      .step first (Layer.place_eq (by decide)) (.refl _)
    have last : ∀ deeper, Calls stop deeper → deeper = stop :=
      fun _ within => within.eq_of_unread unread
    obtain ⟨-, -, -, stops, -⟩ :=
      log_of_encode {} known (by decide) (by decide)
    obtain ⟨-, placed, place, spelled, log, -⟩ :=
      stops stop _ calls last (congrArg Outcome.result (encodeLayers_of_unread unread))
    have read : (tokens.take 1).mapM Layer.ofToken = .ok [.ether {}] := by decide +kernel
    obtain rfl := Except.ok.inj (spelled.symm.trans read)
    exact log.trans (by decide +kernel)

end Frame

end FrameText
