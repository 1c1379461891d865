import FrameText.Definition
import FrameText.Encoding

/-!
# Frame store

Named frames in the order in which they were added.

* `add` and `replace` encode a frame before they touch the store, so that a description that does
  not encode changes nothing.
* `find?` prefers the frame of exactly the given name, and otherwise takes the first frame whose
  name starts with it.
* The bulk loaders add one frame after the other and stop at the first failure.
-/

namespace FrameText

/-- Named frames in the order in which they were added. -/
structure Store where
  config : Config
  frames : List Frame
  deriving DecidableEq, Repr

/-- A file to load frames from. -/
structure SourceFile where
  path : Text
  /-- The bytes of the file, if it exists. -/
  content : Option Bytes
  deriving DecidableEq, Repr

/-- The text of a file, which has to be UTF-8. -/
def SourceFile.read (file : SourceFile) : Except FileFault Text :=
  match file.content with
  | none => .error .notFound
  | some bytes =>
    match String.fromUTF8? ⟨bytes.toArray⟩ with
    | some s => .ok s.toList
    | none => .error .notUtf8

namespace Store

/-! ## Life cycle -/

/-- An empty store with room set aside for `capacity` frames. -/
def create (config : Config) (capacity : Nat) : Outcome Store Unit :=
  ⟨.ok (), ⟨config, []⟩, [⟨.debug, .storeCreated capacity config.frameSize⟩]⟩

/-- Removes every frame. -/
def clear (store : Store) : Outcome Store Unit :=
  ⟨.ok (), { store with frames := [] }, [⟨.debug, .storeCleared store.frames.length⟩]⟩

/-- What is reported when a store is no longer used. -/
def released (store : Store) : Event :=
  ⟨.debug, .storeReleased store.frames.length⟩

/-! ## Look-up -/

/-- The place of the frame of exactly this name. -/
def position? (store : Store) (name : Text) : Option Nat :=
  store.frames.findIdx? fun frame => frame.name == name

/-- The place of the frame of this name, or of the first one whose name starts with it. -/
def findIndex? (store : Store) (name : Text) : Option Nat :=
  if name = [] then
    none
  else
    store.position? name <|> store.frames.findIdx? fun frame => name.isPrefixOf frame.name

/-- The frame of this name, or the first one whose name starts with it. -/
def find? (store : Store) (name : Text) : Option Frame :=
  (store.findIndex? name).bind (store.frames[·]?)

/-- The store with another frame at a place. -/
def set (store : Store) (index : Nat) (frame : Frame) : Store :=
  { store with frames := store.frames.set index frame }

/-! ## Single frames -/

/-- Encodes a frame without adding it.  Blanks around the name and the description do not count. -/
def build (config : Config) (name text : Text) : Except Error Frame × List Event :=
  let name := Text.trim name
  let text := Text.trim text
  if name = [] ∨ Limits.maxNameLength < Text.byteLength name then
    (.error (.invalidName name), [])
  else if text = [] then
    (.error (.parse (.noText name)), [])
  else if Limits.maxTextLength < Text.byteLength text then
    (.error (.textTooLong (Text.byteLength text) Limits.maxTextLength), [])
  else
    let encoded := (Frame.new name text config.frameSize).encode config
    match encoded.result with
    | .ok () => (.ok encoded.state, encoded.log)
    | .error e => (.error e, encoded.log ++ [⟨.error, .frameRefused name e⟩])

/-- Adds a frame under a new name. -/
def add (store : Store) (name text : Text) : Outcome Store Frame :=
  if (store.position? (Text.trim name)).isSome then
    ⟨.error (.alreadyExists (Text.trim name)), store, []⟩
  else
    match build store.config name text with
    | (.error e, events) => ⟨.error e, store, events⟩
    | (.ok frame, events) => ⟨.ok frame, { store with frames := store.frames ++ [frame] }, events⟩

/-- Gives the frame of this name a new description. -/
def replace (store : Store) (name text : Text) : Outcome Store Frame :=
  match store.position? name with
  | none => ⟨.error (.notFound name), store, []⟩
  | some index =>
    match build store.config name text with
    | (.error e, events) => ⟨.error e, store, events⟩
    | (.ok frame, events) => ⟨.ok frame, store.set index frame, events⟩

/-- Removes the frame of exactly this name. -/
def remove (store : Store) (name : Text) : Outcome Store Frame :=
  match store.frames.find? fun frame => frame.name == name with
  | none => ⟨.error (.notFound name), store, []⟩
  | some frame =>
    ⟨.ok frame, { store with frames := store.frames.eraseP fun frame => frame.name == name },
      [⟨.debug, .frameRemoved name⟩]⟩

/-- Replaces the contents of the frame that is found under a name by captured bytes.  The answer is
`none` if no frame is found. -/
def loadBytes (store : Store) (name : Text) (bytes : Bytes) : Outcome Store (Option Frame) :=
  match store.findIndex? name with
  | none => ⟨.ok none, store, []⟩
  | some index =>
    match store.frames[index]? with
    | none => ⟨.ok none, store, []⟩
    | some frame =>
      match frame.loadBytes bytes with
      | .error e => ⟨.error e, store, []⟩
      | .ok loaded => ⟨.ok (some loaded), store.set index loaded, []⟩

/-! ## Bulk loading -/

/-- The name of a frame that is given none: `start` and the place of its definition. -/
def numberedName (start : String) (index : Nat) : Text :=
  start.toList ++ Text.decimal index

/-- Adds the frames of definition strings, the first of which has this index. -/
def addStrings : Nat → List Text → Store → Outcome Store Unit
  | _, [], store => ⟨.ok (), store, []⟩
  | index, s :: rest, store =>
    match Definition.parse s with
    | .error e => ⟨.error e, store, []⟩
    | .ok definition =>
      (store.add (definition.name.getD (numberedName "frame-" index)) definition.text).andThen
        fun _ store => addStrings (index + 1) rest store

/-- Adds the frames of definition strings; the answer is their number. -/
def loadStrings (store : Store) (strings : List Text) : Outcome Store Nat :=
  (addStrings 0 strings store).andThen fun _ store =>
    ⟨.ok strings.length, store, [⟨.info, .stringsLoaded strings.length⟩]⟩

/-- Adds the frames of definitions, the first of which has this index. -/
def addDefinitions : Nat → List Definition → Store → Outcome Store Unit
  | _, [], store => ⟨.ok (), store, []⟩
  | index, definition :: rest, store =>
    (store.add (definition.name.getD (numberedName "Frame-" index)) definition.text).andThen
      fun _ store => addDefinitions (index + 1) rest store

/-- Adds the frames of a text in the form of a definition file; the answer is their number. -/
def loadText (store : Store) (content : Text) : Outcome Store Nat :=
  let file := Definition.parseFile content
  ((addDefinitions 0 file.1 store).map fun _ => file.1.length).after file.2

/-- Adds the frames of a definition file; the answer is their number. -/
def loadFile (store : Store) (file : SourceFile) : Outcome Store Nat :=
  match file.read with
  | .error fault => ⟨.error (.file fault), store, [⟨.error, .fileRefused file.path fault⟩]⟩
  | .ok content =>
    (store.loadText content).andThen fun count store =>
      ⟨.ok count, store, [⟨.info, .fileLoaded file.path count⟩]⟩

end Store

end FrameText
