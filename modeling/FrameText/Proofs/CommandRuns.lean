import FrameText.CommandLine.Run
import FrameText.Proofs.BulkLoads
import FrameText.Proofs.Lookup
import FrameText.Proofs.Marks
import Mathlib.Data.List.Forall2

/-!
# Command runs — what a run of the command lists

A run is put together from operations that share a store and a decode context.  What it lists can be
told without either: each listing depends on the loaded frames and on its own argument only.

1. `Request.Loads` says which store the files and strings of a request make.
2. `Shows` and `ShowsInjection` say what a listing of a frame and of an injection has to be.
3. `Request.Loads.appends`: the frames are those of the files and then those of the strings, in
   order.
4. `listFrames_eq_ok`: the context does not matter.  `inject_eq_ok` and `injectAll_eq_ok`: nor do
   the injections in front, since an injection keeps all labels (`labels_inject`).
5. `list_eq_ok` and `result_run` say when listing and the whole run succeed, and `run_eq_ok_iff`
   puts all of this together.
-/

namespace FrameText

/-! ## Answers of composed operations -/

namespace Outcome

variable {σ α β : Type} {outcome : Outcome σ α}

/-- Two operations succeed where the first one does, and the second one in the state that the first
one leaves. -/
theorem andThen_eq_ok {next : α → σ → Outcome σ β} {b : β} :
    (outcome.andThen next).result = .ok b ↔
      ∃ a, outcome.result = .ok a ∧ (next a outcome.state).result = .ok b := by
  cases answer : outcome.result with
  | error e => simp [(andThen_of_error answer).1]
  | ok a => simp [(andThen_of_ok answer).1]

/-- And the state that they leave is that of the second one. -/
theorem andThen_leaves {next : α → σ → Outcome σ β} {b : β} {later : σ} :
    (outcome.andThen next).result = .ok b ∧ (outcome.andThen next).state = later ↔
      ∃ a, outcome.result = .ok a ∧ (next a outcome.state).result = .ok b ∧
        (next a outcome.state).state = later := by
  cases answer : outcome.result with
  | error e => simp [(andThen_of_error answer).1]
  | ok a => simp [(andThen_of_ok answer).1, (andThen_of_ok answer).2]

theorem result_map (f : α → β) (outcome : Outcome σ α) :
    (outcome.map f).result = f <$> outcome.result := rfl

end Outcome

/-- Reading a list and then relating what is read to another list does both element by element. -/
theorem mapM_forall₂_iff {ε α β γ : Type} {read : α → Except ε β} {relation : β → γ → Prop}
    {as : List α} {cs : List γ} :
    (∃ bs, as.mapM read = .ok bs ∧ List.Forall₂ relation bs cs) ↔
      List.Forall₂ (fun a c => ∃ b, read a = .ok b ∧ relation b c) as cs := by
  induction as generalizing cs with
  | nil =>
    constructor
    · rintro ⟨bs, none, related⟩
      cases none
      cases related
      exact .nil
    · intro related
      cases related
      exact ⟨[], rfl, .nil⟩
  | cons a rest ih =>
    constructor
    · rintro ⟨bs, all, related⟩
      obtain ⟨b, behind, first, others, rfl⟩ := mapM_cons_eq_ok.1 all
      cases related with
      | cons here later => exact .cons ⟨b, first, here⟩ (ih.1 ⟨behind, others, later⟩)
    · intro related
      cases related with
      | cons here later =>
        obtain ⟨b, first, same⟩ := here
        obtain ⟨behind, others, more⟩ := ih.2 later
        exact ⟨b :: behind, mapM_cons_eq_ok.2 ⟨b, behind, first, others, rfl⟩, .cons same more⟩

namespace CommandLine

/-! ## Definitions -/

/-- Whether files load into a store, one after the other, and which store they make of it. -/
inductive LoadsFiles : Store → List SourceFile → Store → Prop where
  | nil (store) : LoadsFiles store [] store
  | cons {store later file rest count} : (store.loadFile file).result = .ok count →
      LoadsFiles (store.loadFile file).state rest later → LoadsFiles store (file :: rest) later

/-- Whether all files of a request and then all of its strings load into an empty store, and which
store they make of it. -/
def Request.Loads (request : Request) (store : Store) : Prop :=
  ∃ between count, LoadsFiles ⟨request.config, []⟩ request.files between ∧
    (between.loadStrings request.strings).result = .ok count ∧
    (between.loadStrings request.strings).state = store

/-- Whether data can be dissected, and the listing shows its layers under this title. -/
def Shows (title : Text) (data : Bytes) (listing : Text) : Prop :=
  ∃ text, decode data .ether = .ok text ∧ listing = layerListing title text

/-- Whether an argument `FRAME=HEX` gives bytes for a frame of the store that has room for them, and
the listing shows their layers under the name of that frame. -/
def ShowsInjection (store : Store) (arg listing : Text) : Prop :=
  ∃ name hex bytes frame, arg = name ++ '=' :: hex ∧ '=' ∉ name ∧ Text.trim name ≠ [] ∧
    HexText.parse hex = .ok bytes ∧ store.Resolves (Text.trim name) frame ∧
    bytes.length ≤ frame.capacity ∧ Shows frame.name bytes listing

/-! ## Loading -/

section Loading

variable {request : Request} {store later : Store} {files : List SourceFile}

theorem loadFiles_eq_ok :
    (loadFiles files store).result = .ok () ∧ (loadFiles files store).state = later ↔
      LoadsFiles store files later := by
  induction files generalizing store with
  | nil =>
    constructor
    · rintro ⟨-, rfl⟩
      exact .nil store
    · intro loads
      cases loads
      exact ⟨rfl, rfl⟩
  | cons file rest ih =>
    rw [loadFiles, Outcome.andThen_leaves]
    constructor
    · rintro ⟨count, loaded, others⟩
      exact .cons loaded (ih.1 others)
    · intro loads
      cases loads with
      | cons loaded others => exact ⟨_, loaded, ih.2 others⟩

/-- Strings are loaded even where there are none: nothing happens then. -/
theorem loadGivenStrings_eq_ok (strings : List Text) :
    (loadGivenStrings strings store).result = .ok () ∧
        (loadGivenStrings strings store).state = later ↔
      ∃ count, (store.loadStrings strings).result = .ok count ∧
        (store.loadStrings strings).state = later := by
  unfold loadGivenStrings
  split
  · rename_i none
    rw [none]
    exact ⟨fun ⟨_, kept⟩ => ⟨0, rfl, kept⟩, fun ⟨_, _, kept⟩ => ⟨rfl, kept⟩⟩
  · rw [Outcome.result_after, Outcome.result_map, Outcome.state_after, map_eq_ok]
    constructor
    · rintro ⟨⟨count, loaded, -⟩, left⟩
      exact ⟨count, loaded, left⟩
    · rintro ⟨count, loaded, left⟩
      exact ⟨⟨count, loaded, rfl⟩, left⟩

theorem usesBuiltIn_of_given (given : request.files ≠ [] ∨ request.strings ≠ []) :
    request.usesBuiltIn = false := by
  rcases given with files | strings
  · simp [Request.usesBuiltIn, files]
  · simp [Request.usesBuiltIn, strings]

/-- Where files or strings are given, a run loads these. -/
theorem load_eq_ok (given : request.files ≠ [] ∨ request.strings ≠ []) :
    (load request ⟨request.config, []⟩).result = .ok () ∧
        (load request ⟨request.config, []⟩).state = later ↔
      request.Loads later := by
  simp only [load, usesBuiltIn_of_given given, Bool.false_eq_true, if_false,
    Outcome.andThen_leaves]
  constructor
  · rintro ⟨_, files, _, strings, _, -, -, left⟩
    obtain ⟨count, loaded, same⟩ := (loadGivenStrings_eq_ok _).1 ⟨strings, left⟩
    exact ⟨_, count, loadFiles_eq_ok.1 ⟨files, rfl⟩, loaded, same⟩
  · rintro ⟨between, count, files, loaded, left⟩
    obtain ⟨filesLoaded, rfl⟩ := loadFiles_eq_ok.2 files
    obtain ⟨stringsLoaded, same⟩ := (loadGivenStrings_eq_ok _).2 ⟨count, loaded, left⟩
    exact ⟨(), filesLoaded, (), stringsLoaded, (), trivial, trivial, same⟩

/-- A file that loads can be read, and its text loads. -/
theorem loadText_of_loadFile {file : SourceFile} {count : Nat}
    (loaded : (store.loadFile file).result = .ok count) :
    ∃ content, file.read = .ok content ∧ (store.loadText content).result = .ok count ∧
      (store.loadText content).state = (store.loadFile file).state := by
  cases read : file.read with
  | error fault =>
    have refused : (store.loadFile file).result = .error (.file fault) := by
      rw [Store.loadFile, read]
    rw [refused] at loaded
    cases loaded
  | ok content =>
    have opened : store.loadFile file = (store.loadText content).andThen fun count store =>
        ⟨.ok count, store, [⟨.info, .fileLoaded file.path count⟩]⟩ := by
      rw [Store.loadFile, read]
    rw [opened] at loaded ⊢
    obtain ⟨_, text, same⟩ := Outcome.andThen_eq_ok.1 loaded
    cases same
    exact ⟨content, rfl, text, by rw [(Outcome.andThen_of_ok text).2]⟩

/-- Files that load add the entries of their texts, one file after the other. -/
theorem LoadsFiles.appends (loads : LoadsFiles store files later) :
    ∃ contents pairs, files.mapM SourceFile.read = .ok contents ∧
      contents.flatMap Store.fileEntries = pairs.map .ok ∧ store.Appends pairs later := by
  induction loads with
  | nil store => exact ⟨[], [], rfl, rfl, store.appends_nil⟩
  | @cons store later file rest count loaded _ ih =>
    obtain ⟨content, read, text, state⟩ := loadText_of_loadFile loaded
    have inOrder := store.loadText_inOrder content
    rw [text, state] at inOrder
    obtain ⟨-, front, entries, appends⟩ := inOrder
    obtain ⟨contents, back, reads, others, behind⟩ := ih
    refine ⟨content :: contents, front ++ back, mapM_cons_eq_ok.2 ⟨_, _, read, reads, rfl⟩, ?_,
      appends.append behind⟩
    rw [List.flatMap_cons, entries, others, List.map_append]

/-- A request that loads adds the entries of its files, and then those of its strings. -/
theorem Request.Loads.appends (loads : request.Loads store) :
    ∃ contents pairs, request.files.mapM SourceFile.read = .ok contents ∧
      contents.flatMap Store.fileEntries ++ Store.stringEntries request.strings =
        pairs.map .ok ∧
      (⟨request.config, []⟩ : Store).Appends pairs store := by
  obtain ⟨between, count, files, loaded, left⟩ := loads
  obtain ⟨contents, front, reads, entries, appends⟩ := files.appends
  have inOrder := between.loadStrings_inOrder request.strings
  rw [loaded, left] at inOrder
  obtain ⟨-, back, others, behind⟩ := inOrder
  refine ⟨contents, front ++ back, reads, ?_, appends.append behind⟩
  rw [entries, others, List.map_append]

end Loading

/-! ## Listing frames -/

section Listing

variable {frame : Frame} {frames : List Frame} {context : DecodeContext} {listing : Text}
  {listings : List Text}

theorem dissectedListing_eq_ok :
    (dissectedListing frame context).result = .ok listing ↔
      Shows frame.name frame.data listing := by
  have fresh : (dissectedListing frame context).result =
      layerListing frame.name <$> decode frame.data .ether := rfl
  rw [fresh, map_eq_ok]
  exact exists_congr fun text => and_congr_right fun _ => eq_comm

/-- A context that was used before makes no difference. -/
theorem listFrames_eq_ok :
    (listFrames frames context).result = .ok listings ↔
      List.Forall₂ (fun frame listing => Shows frame.name frame.data listing) frames listings := by
  induction frames generalizing context listings with
  | nil =>
    constructor
    · intro none
      cases none
      exact .nil
    · intro related
      cases related
      rfl
  | cons frame rest ih =>
    rw [listFrames, Outcome.andThen_eq_ok]
    constructor
    · rintro ⟨listing, first, others⟩
      obtain ⟨behind, later, rfl⟩ := map_eq_ok.1 others
      exact .cons (dissectedListing_eq_ok.1 first) (ih.1 later)
    · intro related
      cases related with
      | cons here later =>
        exact ⟨_, dissectedListing_eq_ok.2 here, map_eq_ok.2 ⟨_, ih.2 later, rfl⟩⟩

end Listing

/-! ## Injections -/

section Injections

variable {store : Store} {session : Session} {injection : Text × Text} {listing : Text}
  {injections : List (Text × Text)} {listings : List Text}

/-- Whether an injection gives bytes for a frame of the store that has room for them, and the
listing shows their layers.  Of the frame only its label matters. -/
def Injects (store : Store) (injection : Text × Text) (listing : Text) : Prop :=
  ∃ bytes label, HexText.parse injection.2 = .ok bytes ∧
    (store.find? injection.1).map Frame.label = some label ∧ bytes.length ≤ label.2 ∧
    Shows label.1 bytes listing

/-- An injection changes nothing of the store but the bytes of a frame. -/
theorem labels_inject (injection : Text × Text) (session : Session) :
    (inject injection session).state.store.labels = session.store.labels := by
  unfold inject
  cases HexText.parse injection.2 with
  | error e => rfl
  | ok bytes =>
    have loaded := session.store.labels_loadBytes injection.1 bytes
    simp only
    cases answer : (session.store.loadBytes injection.1 bytes).result with
    | error e =>
      have failed : ((session.store.loadBytes injection.1 bytes).carry
          (⟨·, session.context⟩ : Store → Session)).result = .error e := answer
      rw [(Outcome.andThen_of_error failed).2]
      exact loaded
    | ok found =>
      have reached : ((session.store.loadBytes injection.1 bytes).carry
          (⟨·, session.context⟩ : Store → Session)).result = .ok found := answer
      rw [(Outcome.andThen_of_ok reached).2]
      -- The look at the bytes that were loaded changes the context only.
      cases found with
      | none => exact loaded
      | some frame => exact loaded

theorem inject_eq_ok :
    (inject injection session).result = .ok listing ↔
      Injects session.store injection listing := by
  -- The frame is listed under its own name with the bytes that it has been given.
  have shown : ∀ (frame : Frame) bytes context, (dissectedListing
      (Frame.captured frame.name frame.text frame.capacity bytes) context).result = .ok listing ↔
        Shows frame.name bytes listing := by
    intro frame bytes context
    rw [dissectedListing_eq_ok, (Frame.holds_captured _ _ _ _).1]
    rfl
  constructor
  · intro injected
    cases given : HexText.parse injection.2 with
    | error e =>
      rw [inject, given] at injected
      cases injected
    | ok bytes =>
      rw [inject, given] at injected
      obtain ⟨found, loaded, listed⟩ := Outcome.andThen_eq_ok.1 injected
      cases found with
      | none => cases listed
      | some _ =>
        obtain ⟨frame, found, room, rfl⟩ := Store.loadBytes_eq_some_iff.1 loaded
        have label : (session.store.find? injection.1).map Frame.label = some frame.label := by
          rw [found]
          rfl
        exact ⟨bytes, frame.label, given, label, room, (shown frame bytes _).1 listed⟩
  · rintro ⟨bytes, label, given, named, room, shows⟩
    obtain ⟨frame, found, rfl⟩ := Option.map_eq_some_iff.1 named
    rw [inject, given]
    exact Outcome.andThen_eq_ok.2 ⟨_, Store.loadBytes_eq_some_iff.2 ⟨frame, found, room, rfl⟩,
      (shown frame bytes _).2 shows⟩

/-- No injection makes a difference for those behind it. -/
theorem injectAll_eq_ok (same : session.store.labels = store.labels)
    (named : ∀ injection ∈ injections, injection.1 ≠ []) :
    (injectAll injections session).result = .ok listings ↔
      List.Forall₂ (Injects store) injections listings := by
  have label : ∀ {injection : Text × Text}, injection.1 ≠ [] → ∀ {session : Session},
      session.store.labels = store.labels → ∀ {listing},
      (Injects session.store injection listing ↔ Injects store injection listing) := by
    intro injection named session same listing
    unfold Injects
    rw [Store.label_find? named, Store.label_find? named, same]
  -- The store changes from injection to injection, but all of them see the same labels.
  induction injections generalizing session listings with
  | nil =>
    constructor
    · intro none
      cases none
      exact .nil
    · intro related
      cases related
      rfl
  | cons injection rest ih =>
    have here := named injection List.mem_cons_self
    have behind : ∀ {listings},
        (injectAll rest (inject injection session).state).result = .ok listings ↔
          List.Forall₂ (Injects store) rest listings :=
      ih ((labels_inject injection session).trans same)
        fun later member => named later (List.mem_cons_of_mem injection member)
    rw [injectAll, Outcome.andThen_eq_ok]
    constructor
    · rintro ⟨listing, first, others⟩
      obtain ⟨later, rest, rfl⟩ := map_eq_ok.1 others
      exact .cons ((label here same).1 (inject_eq_ok.1 first)) (behind.1 rest)
    · intro related
      cases related with
      | cons first later =>
        exact ⟨_, inject_eq_ok.2 ((label here same).2 first), map_eq_ok.2 ⟨_, behind.2 later, rfl⟩⟩

end Injections

/-! ## Arguments of injections -/

section Arguments

variable {store : Store} {request : Request} {arg listing : Text} {injection : Text × Text}
  {listings : List Text}

/-- An argument is split at its first equals sign. -/
theorem parseInjection_eq_ok :
    parseInjection arg = .ok injection ↔
      ∃ name hex, arg = name ++ '=' :: hex ∧ '=' ∉ name ∧ Text.trim name ≠ [] ∧
        injection = (Text.trim name, hex) := by
  unfold parseInjection
  constructor
  · intro parsed
    split at parsed
    · rename_i name hex cut
      split at parsed
      · cases parsed
      · rename_i named
        cases parsed
        obtain ⟨whole, first⟩ := Text.cut?_singleton_eq_some_iff.1 cut
        exact ⟨name, hex, whole, first, named, rfl⟩
    · cases parsed
  · rintro ⟨name, hex, whole, first, named, rfl⟩
    rw [Text.cut?_singleton_eq_some_iff.2 ⟨whole, first⟩]
    exact if_neg named

theorem injects_iff (named : injection.1 ≠ []) :
    Injects store injection listing ↔
      ∃ bytes frame, HexText.parse injection.2 = .ok bytes ∧ store.Resolves injection.1 frame ∧
        bytes.length ≤ frame.capacity ∧ Shows frame.name bytes listing := by
  constructor
  · rintro ⟨bytes, label, given, found, room, shows⟩
    obtain ⟨frame, here, rfl⟩ := Option.map_eq_some_iff.1 found
    exact ⟨bytes, frame, given, (Store.find?_eq_some_iff named).1 here, room, shows⟩
  · rintro ⟨bytes, frame, given, resolves, room, shows⟩
    have found := (Store.find?_eq_some_iff named).2 resolves
    exact ⟨bytes, frame.label, given, by rw [found]; rfl, room, shows⟩

theorem showsInjection_iff :
    ShowsInjection store arg listing ↔
      ∃ injection, parseInjection arg = .ok injection ∧ Injects store injection listing := by
  constructor
  · rintro ⟨name, hex, bytes, frame, whole, first, named, given⟩
    exact ⟨_, parseInjection_eq_ok.2 ⟨name, hex, whole, first, named, rfl⟩,
      (injects_iff named).2 ⟨bytes, frame, given⟩⟩
  · rintro ⟨injection, parsed, injects⟩
    obtain ⟨name, hex, whole, first, named, rfl⟩ := parseInjection_eq_ok.1 parsed
    obtain ⟨bytes, frame, given⟩ := (injects_iff named).1 injects
    exact ⟨name, hex, bytes, frame, whole, first, named, given⟩

/-- All arguments are split before the first injection is performed. -/
theorem injectArguments_eq_ok {context : DecodeContext} {args : List Text} :
    (∃ injections, parseInjections args = .ok injections ∧
        (injectAll injections { store, context }).result = .ok listings) ↔
      List.Forall₂ (ShowsInjection store) args listings := by
  have named : ∀ {injections}, parseInjections args = .ok injections →
      ∀ injection ∈ injections, injection.1 ≠ [] := by
    intro injections parsed injection member
    obtain ⟨before, after, rfl⟩ := List.append_of_mem member
    obtain ⟨-, arg, -, -, -, here, -⟩ := exists_split_of_mapM parsed
    obtain ⟨name, hex, -, -, given, rfl⟩ := parseInjection_eq_ok.1 here
    exact given
  calc (∃ injections, parseInjections args = .ok injections ∧
          (injectAll injections { store, context }).result = .ok listings)
      ↔ ∃ injections, parseInjections args = .ok injections ∧
          List.Forall₂ (Injects store) injections listings :=
        exists_congr fun _ => and_congr_right fun parsed => injectAll_eq_ok rfl (named parsed)
    _ ↔ List.Forall₂ (fun arg listing => ∃ injection, parseInjection arg = .ok injection ∧
          Injects store injection listing) args listings := mapM_forall₂_iff
    _ ↔ List.Forall₂ (ShowsInjection store) args listings := by
        simp only [← showsInjection_iff]

end Arguments

/-! ## Whole runs -/

section Runs

variable {request : Request} {store : Store} {listings : List Text}

/-- Where files or strings are given, there are no injections but those of the arguments. -/
theorem injections_of_given (given : request.files ≠ [] ∨ request.strings ≠ []) :
    request.injections = parseInjections request.hex := by
  unfold Request.injections
  rw [usesBuiltIn_of_given given]
  cases parseInjections request.hex <;> rfl

/-- The frames are listed first.  That leaves the store as it is. -/
theorem list_eq_ok (given : request.files ≠ [] ∨ request.strings ≠ []) :
    (list request { store }).result = .ok listings ↔
      ∃ shown injected,
        List.Forall₂ (fun frame listing => Shows frame.name frame.data listing) store.frames shown ∧
        List.Forall₂ (ShowsInjection store) request.hex injected ∧
        listings = shown ++ injected := by
  rw [list, Outcome.andThen_eq_ok, injections_of_given given]
  constructor
  · rintro ⟨shown, listed, others⟩
    split at others
    · cases others
    · rename_i injections parsed
      obtain ⟨injected, performed, rfl⟩ := map_eq_ok.1 others
      exact ⟨shown, injected, listFrames_eq_ok.1 listed,
        injectArguments_eq_ok.1 ⟨injections, parsed, performed⟩, rfl⟩
  · rintro ⟨shown, injected, listed, performed, rfl⟩
    obtain ⟨injections, parsed, answered⟩ := injectArguments_eq_ok.2 performed
    refine ⟨shown, listFrames_eq_ok.2 listed, ?_⟩
    rw [parsed]
    exact map_eq_ok.2 ⟨injected, answered, rfl⟩

/-- A run loads its frames and lists them. -/
theorem result_run (given : request.files ≠ [] ∨ request.strings ≠ []) :
    (run request).result = .ok listings ↔
      ∃ store, request.Loads store ∧ (list request { store }).result = .ok listings := by
  have composed : (run request).result =
      ((load request ⟨request.config, []⟩).andThen fun _ store =>
        (list request { store }).carry Session.store).result := rfl
  rw [composed, Outcome.andThen_eq_ok]
  constructor
  · rintro ⟨_, loaded, listed⟩
    exact ⟨_, (load_eq_ok given).1 ⟨loaded, rfl⟩, listed⟩
  · rintro ⟨store, loads, listed⟩
    obtain ⟨loaded, rfl⟩ := (load_eq_ok given).2 loads
    exact ⟨(), loaded, listed⟩

/-- A run that is given files or strings succeeds exactly where all of these load, every frame can
be dissected, and every argument of an injection is a name and bytes for a frame that has room for
them and can be dissected.  It lists the frames in the order in which they were added, with the
bytes that their descriptions encode to, and behind them one injection for each argument, each with
its own bytes under the name of the frame that these went into. -/
theorem run_eq_ok_iff (request : Request) (given : request.files ≠ [] ∨ request.strings ≠ []) :
    (∀ listings, (run request).result = .ok listings ↔
      ∃ store shown injected, request.Loads store ∧
        List.Forall₂ (fun frame listing => Shows frame.name frame.data listing) store.frames shown ∧
        List.Forall₂ (ShowsInjection store) request.hex injected ∧
        listings = shown ++ injected) ∧
    ∀ store, request.Loads store →
      (∃ contents pairs, request.files.mapM SourceFile.read = .ok contents ∧
        contents.flatMap Store.fileEntries ++ Store.stringEntries request.strings =
          pairs.map .ok ∧
        (⟨request.config, []⟩ : Store).Appends pairs store) ∧
      ∀ frame ∈ store.frames, frame.Encoded request.config := by
  constructor
  · intro listings
    rw [result_run given]
    constructor
    · rintro ⟨store, loads, listed⟩
      obtain ⟨shown, injected, rest⟩ := (list_eq_ok given).1 listed
      exact ⟨store, shown, injected, loads, rest⟩
    · rintro ⟨store, shown, injected, loads, rest⟩
      exact ⟨store, loads, (list_eq_ok given).2 ⟨shown, injected, rest⟩⟩
  · intro store loads
    obtain ⟨contents, pairs, reads, entries, appends⟩ := loads.appends
    exact ⟨⟨contents, pairs, reads, entries, appends⟩, appends.encoded⟩

/-- Two injections go into one frame, which the first one names by the start of its name only.  Each
is listed with its own bytes, and the frame itself as it was before. -/
theorem run_two_injections :
    let request : Request :=
      { config := { frameSize := 60 }
        files := [⟨[], some (Text.utf8
          "one := Ether(src=0:0:0:0:0:1)/Payload(fill=0x2e) // here\n".toList)⟩]
        strings := ["oneself := Ether(src=0:0:0:0:0:2)/Payload(fill=0x2e)".toList]
        hex := ["on=ffffffffffff 000000000003 9000".toList,
          " one = 000000000004 000000000005 88b5".toList] }
    let padded : Text := List.replicate 46 '.'
    let listings : List Text :=
      [">>>> one <<<<\n   Ether(dst=FF:FF:FF:FF:FF:FF,src=00:00:00:00:00:01)\n   Raw('".toList ++
          padded ++ "')\n   Payload(len=64)\n".toList,
        ">>>> oneself <<<<\n   Ether(dst=FF:FF:FF:FF:FF:FF,src=00:00:00:00:00:02)\n   Raw('".toList ++
          padded ++ "')\n   Payload(len=64)\n".toList,
        (">>>> one <<<<\n   Ether(dst=FF:FF:FF:FF:FF:FF,src=00:00:00:00:00:03)\n" ++
          "   Payload(len=18)\n").toList,
        (">>>> one <<<<\n   Ether(dst=00:00:00:00:00:04,src=00:00:00:00:00:05)\n" ++
          "   Payload(len=18)\n").toList]
    (request.files ≠ [] ∨ request.strings ≠ []) ∧ (run request).result = .ok listings ∧
      ∃ store shown injected, request.Loads store ∧
        List.Forall₂ (fun frame listing => Shows frame.name frame.data listing) store.frames shown ∧
        List.Forall₂ (ShowsInjection store) request.hex injected ∧
        listings = shown ++ injected ∧ ∀ frame ∈ store.frames, frame.Encoded request.config := by
  intro request padded listings
  have given : request.files ≠ [] ∨ request.strings ≠ [] := .inl (List.cons_ne_nil _ _)
  have answer : (run request).result = .ok listings := by decide +kernel
  obtain ⟨store, shown, injected, loads, framesShown, injectionsShown, same⟩ :=
    ((run_eq_ok_iff request given).1 listings).1 answer
  exact ⟨given, answer, store, shown, injected, loads, framesShown, injectionsShown, same,
    ((run_eq_ok_iff request given).2 store loads).2⟩

end Runs

end CommandLine

end FrameText
