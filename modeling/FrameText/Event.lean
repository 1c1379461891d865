import FrameText.HexText
import FrameText.LayerKind

/-!
# Events

What operations report while they run.  A `Notice` says what happened, an `Event` adds how important
it is, and `Event.line` puts it into words.  An `Outcome` is the result of an operation on a value
of some type, together with that value afterwards and the events in order.
-/

namespace FrameText

/-- How important an event is. -/
inductive Level where
  | trace
  | debug
  | info
  | warn
  | error
  deriving DecidableEq, Repr

/-- The name of a level. -/
def Level.name : Level → Text
  | trace => "TRACE".toList
  | debug => "DEBUG".toList
  | info => "INFO".toList
  | warn => "WARN".toList
  | error => "ERROR".toList

/-- What happened.  The kind of a layer is `none` at the end of the frame. -/
inductive Notice where
  /-- A layer of the description was recognised. -/
  | layerFound (index : Nat) (layer : Text)
  /-- The encoder came to a layer on its way down. -/
  | layerEntered (index offset : Nat) (kind : Option LayerKind) (params : Text)
  /-- The encoder left a layer on its way back. -/
  | layerLeft (index length frameLength : Nat) (kind : Option LayerKind)
  | datagramLength (length : Nat)
  | frameTooShort (frame : Text) (length adjusted : Nat)
  | frameTooLong (frame : Text) (length adjusted : Nat)
  | frameEncoded (frame : Text) (length : Nat)
  | frameDumped (frame : Text) (data : Bytes)
  | storeCreated (capacity frameSize : Nat)
  | storeCleared (frames : Nat)
  | storeReleased (frames : Nat)
  | frameRemoved (frame : Text)
  | frameRefused (frame : Text) (error : Error)
  | stringsLoaded (count : Nat)
  | fileLoaded (file : Text) (count : Nat)
  | fileRefused (file : Text) (fault : FileFault)
  | definitionSkipped (name : Option Text)
  | strayLine (line : Text)
  | loadingFile (file : Text)
  | loadingStrings (count : Nat)
  | loadingDefaults
  | framesFound (count : Nat)
  | bytesInjected (frame : Text) (length : Nat)
  deriving DecidableEq, Repr

/-- Something that happened, and how important it is. -/
structure Event where
  level : Level
  notice : Notice
  deriving DecidableEq, Repr

/-! ## Words -/

/-- The name of a layer kind, or of the end of the frame. -/
def followerName : Option LayerKind → Text
  | some kind => kind.name
  | none => "Done".toList

/-- A named field of an event. -/
def namedField (name : String) (value : Text) : Text :=
  ' ' :: name.toList ++ '=' :: value

/-- A named field of an event that holds a number. -/
def numberField (name : String) (value : Nat) : Text :=
  namedField name (Text.decimal value)

/-- An optional text as it is shown in diagnostics. -/
def quotedOption : Option Text → Text
  | some s => "Some(".toList ++ Text.quoted s ++ ")".toList
  | none => "None".toList

/-- A notice in words: the message and its fields. -/
def Notice.message : Notice → Text
  | layerFound index layer =>
    "Add layer '".toList ++ layer ++ "'".toList ++ numberField "layer" index
  | layerEntered index offset kind params =>
    followerName kind ++ " params '".toList ++ params ++ "'".toList ++ numberField "layer" index ++
      numberField "offset" offset
  | layerLeft index length frameLength kind =>
    "Return '".toList ++ followerName kind ++ "'".toList ++ numberField "layer" index ++
      numberField "length" length ++ numberField "pktlen" frameLength
  | datagramLength length => "UDP length ".toList ++ Text.decimal length ++ " bytes".toList
  | frameTooShort frame length adjusted =>
    "Frame too short ".toList ++ Text.decimal length ++ ", adjusting to ".toList ++
      Text.decimal adjusted ++ " bytes".toList ++ namedField "frame" frame
  | frameTooLong frame length adjusted =>
    "Frame too long ".toList ++ Text.decimal length ++ ", adjusting to ".toList ++
      Text.decimal adjusted ++ " bytes".toList ++ namedField "frame" frame
  | frameEncoded frame length =>
    "Frame encoded".toList ++ namedField "frame" frame ++ numberField "len" length
  | frameDumped frame data =>
    frame ++ " (".toList ++ Text.decimal data.length ++ " bytes)\n".toList ++ HexText.dump data
  | storeCreated capacity frameSize =>
    "Creating frame store".toList ++ numberField "capacity" capacity ++
      numberField "frame_size" frameSize
  | storeCleared frames => "Clearing frame store".toList ++ numberField "frames" frames
  | storeReleased frames => "Releasing frame store".toList ++ numberField "frames" frames
  | frameRemoved frame => "Removing frame".toList ++ namedField "frame" frame
  | frameRefused frame error =>
    "Failed to add frame".toList ++ namedField "frame" frame ++ namedField "error" error.message
  | stringsLoaded count => "Loaded frame strings".toList ++ numberField "count" count
  | fileLoaded file count =>
    "Loaded frame file".toList ++ namedField "file" file ++ numberField "count" count
  | fileRefused file fault =>
    "Unable to open frame file".toList ++ namedField "file" file ++
      namedField "error" fault.message
  | definitionSkipped name =>
    "Frame has no text, skipped".toList ++ namedField "name" (quotedOption name)
  | strayLine line => "Ignoring text outside of a frame: '".toList ++ line ++ "'".toList
  | loadingFile file => "Loading frame file".toList ++ namedField "file" file
  | loadingStrings count => "Loading frame strings".toList ++ numberField "count" count
  | loadingDefaults => "No frames given, loading the default frame set".toList
  | framesFound count => "Found frames".toList ++ numberField "count" count
  | bytesInjected frame length =>
    "Injected hex data".toList ++ namedField "frame" frame ++ numberField "len" length

/-- An event in words. -/
def Event.line (event : Event) : Text :=
  event.level.name ++ ' ' :: event.notice.message

/-! ## Outcomes -/

/-- What an operation on a value of type `σ` leaves behind. -/
structure Outcome (σ α : Type) where
  /-- The answer, or why there is none. -/
  result : Except Error α
  /-- The value afterwards. -/
  state : σ
  /-- The events in order. -/
  log : List Event := []

namespace Outcome

variable {σ α β : Type}

/-- Goes on with another operation after a success, and keeps a failure. -/
def andThen (outcome : Outcome σ α) (next : α → σ → Outcome σ β) : Outcome σ β :=
  match outcome.result with
  | .error e => ⟨.error e, outcome.state, outcome.log⟩
  | .ok a =>
    let later := next a outcome.state
    ⟨later.result, later.state, outcome.log ++ later.log⟩

/-- The outcome with events that were reported before it. -/
def after (events : List Event) (outcome : Outcome σ α) : Outcome σ α :=
  { outcome with log := events ++ outcome.log }

/-- The outcome with its answer changed. -/
def map (f : α → β) (outcome : Outcome σ α) : Outcome σ β :=
  { outcome with result := outcome.result.map f }

/-- The outcome of an operation on a part, as one on the whole that the part is put back into. -/
def carry {τ : Type} (whole : σ → τ) (outcome : Outcome σ α) : Outcome τ α :=
  ⟨outcome.result, whole outcome.state, outcome.log⟩

end Outcome

end FrameText
