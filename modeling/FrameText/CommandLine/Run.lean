import FrameText.CommandLine.Arguments
import FrameText.CommandLine.BuiltIn
import FrameText.Dissection.Context
import FrameText.Listing
import FrameText.Store

/-!
# A run of the command

Loads frames into an empty store, lists the layers of every frame, and then, injection by injection,
lists the layers of the injected bytes.  The first failure ends the run.
-/

namespace FrameText

namespace CommandLine

/-- What a run works on. -/
structure Request where
  config : Config := {}
  files : List SourceFile := []
  strings : List Text := []
  /-- Arguments of the form `FRAME=HEX`. -/
  hex : List Text := []
  deriving DecidableEq, Repr

/-- Whether no frames are given, so that the built-in ones are used. -/
def Request.usesBuiltIn (request : Request) : Bool :=
  request.files.isEmpty && request.strings.isEmpty

/-- What a run works with once its frames are loaded. -/
structure Session where
  store : Store
  /-- Used again for every frame that is listed. -/
  context : DecodeContext := {}
  deriving DecidableEq, Repr

/-! ## Loading -/

/-- Loads files in order. -/
def loadFiles : List SourceFile → Store → Outcome Store Unit
  | [], store => ⟨.ok (), store, []⟩
  | file :: rest, store =>
    ((store.loadFile file).after [⟨.info, .loadingFile file.path⟩]).andThen
      fun _ store => loadFiles rest store

/-- Loads definition strings, if there are any. -/
def loadGivenStrings (strings : List Text) (store : Store) : Outcome Store Unit :=
  if strings = [] then
    ⟨.ok (), store, []⟩
  else
    ((store.loadStrings strings).map fun _ => ()).after
      [⟨.info, .loadingStrings strings.length⟩]

/-- Loads the built-in frames. -/
def loadBuiltIn (store : Store) : Outcome Store Unit :=
  ((store.loadStrings builtInFrames).map fun _ => ()).after [⟨.info, .loadingDefaults⟩]

/-- Loads everything that a request asks for. -/
def load (request : Request) (store : Store) : Outcome Store Unit :=
  (loadFiles request.files store).andThen fun _ store =>
    (loadGivenStrings request.strings store).andThen fun _ store =>
      (if request.usesBuiltIn then loadBuiltIn store else ⟨.ok (), store, []⟩).andThen
        fun _ store => ⟨.ok (), store, [⟨.info, .framesFound store.frames.length⟩]⟩

/-! ## Listing -/

/-- The layers of the bytes in a frame, one per line. -/
def dissectedListing (frame : Frame) (context : DecodeContext) : Outcome DecodeContext Text :=
  let dissected := context.decode frame.data .ether
  ⟨dissected.1.map (layerListing frame.name), dissected.2, []⟩

/-- Lists frames in order with one context. -/
def listFrames : List Frame → DecodeContext → Outcome DecodeContext (List Text)
  | [], context => ⟨.ok [], context, []⟩
  | frame :: rest, context =>
    (dissectedListing frame context).andThen fun listing context =>
      (listFrames rest context).map (listing :: ·)

/-- Replaces the contents of a frame by the bytes of an injection and lists their layers. -/
def inject (injection : Text × Text) (session : Session) : Outcome Session Text :=
  match HexText.parse injection.2 with
  | .error e => ⟨.error e, session, []⟩
  | .ok bytes =>
    ((session.store.loadBytes injection.1 bytes).carry (⟨·, session.context⟩)).andThen
      fun found session =>
        match found with
        | none => ⟨.error (.notFound injection.1), session, []⟩
        | some frame =>
          ((dissectedListing frame session.context).carry (⟨session.store, ·⟩)).after
            [⟨.info, .bytesInjected frame.name bytes.length⟩]

/-- Performs injections in order; the answer is their listings. -/
def injectAll : List (Text × Text) → Session → Outcome Session (List Text)
  | [], session => ⟨.ok [], session, []⟩
  | injection :: rest, session =>
    (inject injection session).andThen fun listing session =>
      (injectAll rest session).map (listing :: ·)

/-- The injections of a request. -/
def Request.injections (request : Request) : Except Error (List (Text × Text)) :=
  (parseInjections request.hex).map fun injections =>
    if request.usesBuiltIn && injections.isEmpty then [builtInInjection] else injections

/-- Lists every frame of a store, and then the injections of a request. -/
def list (request : Request) (session : Session) : Outcome Session (List Text) :=
  ((listFrames session.store.frames session.context).carry (⟨session.store, ·⟩)).andThen
    fun listings session =>
      match request.injections with
      | .error e => ⟨.error e, session, []⟩
      | .ok injections => (injectAll injections session).map (listings ++ ·)

/-! ## The whole run -/

/-- Performs a request; the answer is the listings in order. -/
def run (request : Request) : Outcome Store (List Text) :=
  let outcome :=
    (Store.create request.config 0).andThen fun _ store =>
      (load request store).andThen fun _ store =>
        (list request { store := store }).carry Session.store
  { outcome with log := outcome.log ++ [outcome.state.released] }

end CommandLine

end FrameText
