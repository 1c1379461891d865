import FrameText.Proofs.StoreSteps

/-!
# Bulk loads — many frames, one after the other

A bulk load goes through a list of entries and adds a frame for each, up to the first failure.

1. `Store.stringEntries` and `Store.fileEntries` are the entries of the two kinds of input.
2. `Store.addEntries` goes through entries; `Store.loadStrings_eq` and `Store.loadText_eq` say that
   both loaders do just that.
3. `Store.LoadsInOrder` says what a load may leave behind, and `Store.addEntries_inOrder` that it
   leaves nothing else.
-/

namespace FrameText

/-! ## Entries -/

/-- The name and the description of a frame to add, or why there is none. -/
abbrev LoadEntry := Except Error (Text × Text)

/-- The name and the description that a definition at this place asks for. -/
def Definition.entry (start : String) (index : Nat) (definition : Definition) : Text × Text :=
  (definition.name.getD (Store.numberedName start index), definition.text)

namespace Store

/-- The entries of definition strings. -/
def stringEntries (strings : List Text) : List LoadEntry :=
  strings.mapIdx fun index s => (Definition.parse s).map (Definition.entry "frame-" index)

/-- The entries of a definition file. -/
def fileEntries (content : Text) : List LoadEntry :=
  (Definition.parseFile content).1.mapIdx fun index definition =>
    .ok (definition.entry "Frame-" index)

/-- Adds a frame for each entry, up to the first failure. -/
def addEntries : List LoadEntry → Store → Outcome Store Unit
  | [], store => ⟨.ok (), store, []⟩
  | .error e :: _, store => ⟨.error e, store, []⟩
  | .ok entry :: rest, store =>
    (store.add entry.1 entry.2).andThen fun _ store => addEntries rest store

/-! ## The loaders -/

theorem addStrings_eq (index : Nat) (strings : List Text) (store : Store) :
    addStrings index strings store =
      addEntries (strings.mapIdx fun place s =>
        (Definition.parse s).map (Definition.entry "frame-" (index + place))) store := by
  induction strings generalizing index store with
  | nil => rfl
  | cons s rest ih =>
    simp only [addStrings, List.mapIdx_cons, ih, Nat.add_assoc, Nat.add_comm 1]
    cases Definition.parse s <;> rfl

theorem addDefinitions_eq (index : Nat) (definitions : List Definition) (store : Store) :
    addDefinitions index definitions store =
      addEntries (definitions.mapIdx fun place definition =>
        .ok (definition.entry "Frame-" (index + place))) store := by
  induction definitions generalizing index store with
  | nil => rfl
  | cons definition rest ih =>
    simp only [addDefinitions, List.mapIdx_cons, ih, Nat.add_assoc, Nat.add_comm 1]
    rfl

/-- A load of definition strings adds their entries, and answers with their number. -/
theorem loadStrings_eq (store : Store) (strings : List Text) :
    (store.loadStrings strings).result =
        (addEntries (stringEntries strings) store).result.map (fun _ => strings.length) ∧
      (store.loadStrings strings).state = (addEntries (stringEntries strings) store).state := by
  have same : addStrings 0 strings store = addEntries (stringEntries strings) store := by
    rw [addStrings_eq]
    simp [stringEntries]
  unfold loadStrings
  rw [same]
  cases run : (addEntries (stringEntries strings) store).result with
  | error e => exact Outcome.andThen_of_error run
  | ok done => exact Outcome.andThen_of_ok run

/-- A load of a definition file adds its entries, and answers with their number. -/
theorem loadText_eq (store : Store) (content : Text) :
    (store.loadText content).result =
        (addEntries (fileEntries content) store).result.map
          (fun _ => (fileEntries content).length) ∧
      (store.loadText content).state = (addEntries (fileEntries content) store).state := by
  have same : addDefinitions 0 (Definition.parseFile content).1 store =
      addEntries (fileEntries content) store := by
    rw [addDefinitions_eq]
    simp [fileEntries]
  have length : (fileEntries content).length = (Definition.parseFile content).1.length := by
    simp [fileEntries]
  unfold loadText
  simp only [Outcome.map, same, length]
  exact ⟨rfl, rfl⟩

/-! ## What a load leaves behind -/

/-- The store after frames were added one after the other. -/
def addEach (store : Store) (pairs : List (Text × Text)) : Store :=
  pairs.foldl (fun store pair => (store.add pair.1 pair.2).state) store

/-- Whether frames, added one after the other, all went behind the frames that were there, in
order. -/
structure Appends (store : Store) (pairs : List (Text × Text)) (later : Store) : Prop where
  each : later = store.addEach pairs
  behind : ∃ frames, pairs.mapM (fun pair => (build store.config pair.1 pair.2).1) = .ok frames ∧
    later = { store with frames := store.frames ++ frames }

/-- Whether a load answers with the number of its entries after all of them were added, or fails
with the first entry that is malformed or refused, after those in front of it were added. -/
def LoadsInOrder (store : Store) (entries : List LoadEntry) (result : Except Error Nat)
    (later : Store) : Prop :=
  match result with
  | .ok count =>
    count = entries.length ∧ ∃ pairs, entries = pairs.map .ok ∧ store.Appends pairs later
  | .error e =>
    ∃ pairs failing rest, entries = pairs.map .ok ++ failing :: rest ∧ store.Appends pairs later ∧
      (failing >>= fun pair => (later.add pair.1 pair.2).result) = .error e

section Appends

variable {store later : Store} {pairs : List (Text × Text)}

theorem appends_nil (store : Store) : store.Appends [] store :=
  ⟨rfl, [], rfl, by simp⟩

/-- A frame that is added goes in front of those that are added after it. -/
theorem Appends.cons {entry : Text × Text} {frame : Frame}
    (built : (build store.config entry.1 entry.2).1 = .ok frame)
    (added : (store.add entry.1 entry.2).state = { store with frames := store.frames ++ [frame] })
    (others : (store.add entry.1 entry.2).state.Appends pairs later) :
    store.Appends (entry :: pairs) later := by
  obtain ⟨frames, made, behind⟩ := others.behind
  refine ⟨others.each, frame :: frames, mapM_cons_eq_ok.2 ⟨frame, frames, built, ?_, rfl⟩, ?_⟩
  · simpa [added] using made
  · simpa [added] using behind

/-- Frames can be appended in two goes. -/
theorem Appends.append {between : Store} {more : List (Text × Text)}
    (first : store.Appends pairs between) (second : between.Appends more later) :
    store.Appends (pairs ++ more) later := by
  obtain ⟨front, frontMade, frontBehind⟩ := first.behind
  obtain ⟨back, backMade, backBehind⟩ := second.behind
  have each : later = store.addEach (pairs ++ more) := by
    rw [second.each, first.each, addEach, addEach, addEach, List.foldl_append]
  -- The settings, which decide how frames are built, are the same in the second go.
  have settings : between.config = store.config := by rw [frontBehind]
  rw [settings] at backMade
  refine ⟨each, front ++ back, mapM_append_eq_ok.2 ⟨front, back, frontMade, backMade, rfl⟩, ?_⟩
  rw [backBehind, frontBehind, List.append_assoc]

/-- The frames that are appended to an empty store are encoded. -/
theorem Appends.encoded {config : Config} (appends : (⟨config, []⟩ : Store).Appends pairs later) :
    ∀ frame ∈ later.frames, frame.Encoded config := by
  obtain ⟨frames, made, rfl⟩ := appends.behind
  intro frame member
  obtain ⟨before, after, split⟩ := List.append_of_mem member
  have joined : frames = before ++ frame :: after := split
  rw [joined] at made
  obtain ⟨-, pair, -, -, -, built, -⟩ := exists_split_of_mapM made
  exact (build_spec built).2.2.2

end Appends

/-- Entries are added in order, up to the first failure. -/
theorem addEntries_inOrder (entries : List LoadEntry) (store : Store) :
    store.LoadsInOrder entries ((addEntries entries store).result.map fun _ => entries.length)
      (addEntries entries store).state := by
  induction entries generalizing store with
  | nil => exact ⟨rfl, [], rfl, store.appends_nil⟩
  | cons entry rest ih =>
    cases entry with
    | error e => exact ⟨[], .error e, rest, rfl, store.appends_nil, rfl⟩
    | ok entry =>
      rw [addEntries]
      rcases store.add_cases entry.1 entry.2 with ⟨e, refused, kept⟩ | ⟨frame, added, built, -, state⟩
      · -- The frame is refused, and nothing behind it is looked at.
        rw [(Outcome.andThen_of_error refused).1, (Outcome.andThen_of_error refused).2, kept]
        exact ⟨[], .ok entry, rest, rfl, store.appends_nil, refused⟩
      · rw [(Outcome.andThen_of_ok added).1, (Outcome.andThen_of_ok added).2]
        have later := ih (store.add entry.1 entry.2).state
        cases run : (addEntries rest (store.add entry.1 entry.2).state).result with
        | error e =>
          rw [run] at later
          obtain ⟨pairs, failing, behind, split, appends, refused⟩ := later
          exact ⟨entry :: pairs, failing, behind, by rw [split]; rfl, appends.cons built state,
            refused⟩
        | ok done =>
          rw [run] at later
          obtain ⟨-, pairs, all, appends⟩ := later
          exact ⟨rfl, entry :: pairs, by rw [all]; rfl, appends.cons built state⟩

/-- A load of definition strings keeps to the order of its entries. -/
theorem loadStrings_inOrder (store : Store) (strings : List Text) :
    store.LoadsInOrder (stringEntries strings) (store.loadStrings strings).result
      (store.loadStrings strings).state := by
  have length : (stringEntries strings).length = strings.length := List.length_mapIdx
  rw [(store.loadStrings_eq strings).1, (store.loadStrings_eq strings).2, ← length]
  exact addEntries_inOrder _ store

/-- A load of a definition file keeps to the order of its entries. -/
theorem loadText_inOrder (store : Store) (content : Text) :
    store.LoadsInOrder (fileEntries content) (store.loadText content).result
      (store.loadText content).state := by
  rw [(store.loadText_eq content).1, (store.loadText_eq content).2]
  exact addEntries_inOrder _ store

end Store

end FrameText
