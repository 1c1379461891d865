import FrameText.Event
import FrameText.Layer.Layout

/-!
# Encoding

Builds the bytes of a frame from its description.

1. `scanLayers` recognises the layers.
2. `finishLength` brings the frame to a length that Ethernet allows, behind the last layer.
3. `encodeLayers` goes down the layers, placing each, and settles them on the way back.
4. `encode` does all of it on a frame whose past is forgotten first.
-/

namespace FrameText

namespace Encoding

/-- The level at which single layers are reported. -/
def layerLevel (verbose : Bool) : Level :=
  if verbose then .info else .trace

/-! ## Recognising layers -/

/-- Recognises layers, the first of which has this index, up to the first one of no known kind. -/
def scanLayers (verbose : Bool) : Nat → List Text → Except Error (List LayerToken) × List Event
  | _, [] => (.ok [], [])
  | index, text :: rest =>
    match LayerToken.ofText? text with
    | none => (.error (.unknownLayer text), [])
    | some token =>
      let later := scanLayers verbose (index + 1) rest
      (later.1.map (token :: ·), ⟨layerLevel verbose, .layerFound index text⟩ :: later.2)

/-- Recognises the layers of a description, which has at least one. -/
def scan (verbose : Bool) (text : Text) : Except Error (List LayerToken) × List Event :=
  match splitLayers text Limits.maxLayers with
  | .error e => (.error e, [])
  | .ok [] => (.error (.parse .noLayers), [])
  | .ok layers => scanLayers verbose 0 layers

/-! ## The end of the frame -/

/-- Reports an event and gives the frame a new length. -/
def adjustLength (frame : Frame) (length : Nat) (event : Event) : Outcome Frame Unit :=
  match frame.setLength length with
  | .error e => ⟨.error e, frame, [event]⟩
  | .ok adjusted => ⟨.ok (), adjusted, [event]⟩

/-- Brings the frame to a length that Ethernet allows. -/
def finishLength (frame : Frame) : Outcome Frame Unit :=
  if frame.dataLen < Limits.minFrameLength then
    adjustLength frame Limits.minFrameLength
      ⟨.debug, .frameTooShort frame.name frame.dataLen Limits.minFrameLength⟩
  else if Limits.maxFrameLength < frame.dataLen then
    adjustLength frame Limits.maxFrameLength
      ⟨.warn, .frameTooLong frame.name frame.dataLen Limits.maxFrameLength⟩
  else
    ⟨.ok (), frame, []⟩

/-! ## Down the layers and back -/

/-- The events that report that the encoder leaves a layer. -/
def leaveEvents (verbose : Bool) (index : Nat) (layer : Layer) (offset frameLength : Nat) :
    List Event :=
  let left : Event :=
    ⟨layerLevel verbose,
      .layerLeft index (layer.reportedLength offset frameLength) frameLength (some layer.kind)⟩
  match layer with
  | .udp _ _ =>
    if verbose then [⟨.info, .datagramLength (frameLength - offset)⟩, left] else [left]
  | _ => [left]

/-- Encodes the layers that start with the one of this index behind the bytes in use.  The answer is
the kind of the first of them, or `none` at the end of the frame. -/
def encodeLayers (verbose : Bool) : Nat → List LayerToken → Frame →
    Outcome Frame (Option LayerKind)
  | index, [], frame =>
    let entered : Event := ⟨layerLevel verbose, .layerEntered index frame.dataLen none []⟩
    let finished := finishLength frame
    (finished.andThen fun _ frame =>
      ⟨.ok none, frame, [⟨layerLevel verbose, .layerLeft index 0 frame.dataLen none⟩]⟩).after
        [entered]
  | index, token :: rest, frame =>
    let offset := frame.dataLen
    let entered : Event :=
      ⟨layerLevel verbose, .layerEntered index offset (some token.kind) token.params⟩
    match Layer.ofToken token with
    | .error e => ⟨.error e, frame, [entered]⟩
    | .ok layer =>
      match layer.place frame with
      | .error e => ⟨.error e, frame, [entered]⟩
      | .ok placed =>
        ((encodeLayers verbose (index + 1) rest placed).andThen fun next inner =>
          match layer.settle offset next inner with
          | .error e => ⟨.error e, inner, []⟩
          | .ok settled =>
            ⟨.ok (some layer.kind), settled,
              leaveEvents verbose index layer offset settled.dataLen⟩).after [entered]

/-- The events that report a finished frame. -/
def finishEvents (config : Config) (frame : Frame) : List Event :=
  let encoded : Event := ⟨.debug, .frameEncoded frame.name frame.dataLen⟩
  if config.dump then [encoded, ⟨.info, .frameDumped frame.name frame.data⟩] else [encoded]

end Encoding

open Encoding in
/-- Builds the bytes of a frame from its description.  After a failure the frame is left as far as
the encoder got. -/
def Frame.encode (config : Config) (frame : Frame) : Outcome Frame Unit :=
  let blank := frame.reset
  match scan config.verbose frame.text with
  | (.error e, events) => ⟨.error e, blank, events⟩
  | (.ok tokens, events) =>
    ((encodeLayers config.verbose 0 tokens blank).andThen fun _ encoded =>
      ⟨.ok (), encoded, finishEvents config encoded⟩).after events

end FrameText
