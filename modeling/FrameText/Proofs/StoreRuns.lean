import FrameText.Proofs.BulkLoads
import Mathlib.Data.List.Nodup

/-!
# Store runs — what holds of a store whatever was done to it

1. `Store.run` performs operations, those that fail included; `Store.history` keeps, latest first,
   how the contents of frames came about.
2. `Store.Sound` is the invariant: the frames have distinct names, keep to the limits, and have the
   contents that the history says.
3. `Store.Sound.append`, `Store.Sound.put`, `Store.Sound.remove` and `Store.Sound.clear` keep it
   over one change, `Store.sound_perform` over an operation.
4. `Store.run_sound` says so of all runs from an empty store.
-/

namespace FrameText

/-! ## Runs -/

/-- An operation on a store. -/
inductive Operation where
  | add (name text : Text)
  | replace (name text : Text)
  | remove (name : Text)
  | clear
  | loadStrings (strings : List Text)
  | loadText (content : Text)
  | loadBytes (name : Text) (bytes : Bytes)
  deriving DecidableEq, Repr

/-- How the contents of a frame came about. -/
inductive Origin where
  /-- The description was encoded. -/
  | encoded
  /-- Captured bytes were loaded. -/
  | captured (bytes : Bytes)
  deriving DecidableEq, Repr

/-- The names of the frames that were changed and how their contents came about, latest first. -/
abbrev History := List (Text × Origin)

/-- The history with a frame that was encoded, unless that failed. -/
def History.encoded (past : History) : Except Error Frame → History
  | .ok frame => (frame.name, .encoded) :: past
  | .error _ => past

/-- The history with a frame that bytes were loaded into, unless that failed or there was none. -/
def History.captured (past : History) (bytes : Bytes) : Except Error (Option Frame) → History
  | .ok (some frame) => (frame.name, .captured bytes) :: past
  | .ok none | .error _ => past

namespace Store

/-- The store after an operation, which may have failed. -/
def perform (store : Store) : Operation → Store
  | .add name text => (store.add name text).state
  | .replace name text => (store.replace name text).state
  | .remove name => (store.remove name).state
  | .clear => store.clear.state
  | .loadStrings strings => (store.loadStrings strings).state
  | .loadText content => (store.loadText content).state
  | .loadBytes name bytes => (store.loadBytes name bytes).state

/-- The history after a bulk load: every frame that is added counts, up to the first failure. -/
def recordEntries : List LoadEntry → Store → History → History
  | [], _, past => past
  | .error _ :: _, _, past => past
  | .ok entry :: rest, store, past =>
    match (store.add entry.1 entry.2).result with
    | .error _ => past
    | .ok frame =>
      recordEntries rest (store.add entry.1 entry.2).state ((frame.name, .encoded) :: past)

/-- The history after an operation. -/
def record (store : Store) (past : History) : Operation → History
  | .add name text => past.encoded (store.add name text).result
  | .replace name text => past.encoded (store.replace name text).result
  | .remove _ | .clear => past
  | .loadStrings strings => recordEntries (stringEntries strings) store past
  | .loadText content => recordEntries (fileEntries content) store past
  | .loadBytes name bytes => past.captured bytes (store.loadBytes name bytes).result

/-- The store after operations. -/
def run (store : Store) (operations : List Operation) : Store :=
  operations.foldl perform store

/-- The history after operations. -/
def history : Store → History → List Operation → History
  | _, past, [] => past
  | store, past, operation :: rest =>
    history (store.perform operation) (store.record past operation) rest

end Store

/-! ## The invariant -/

/-- Whether the contents of a frame came about in this way. -/
def Frame.ComesFrom (config : Config) (frame : Frame) : Option Origin → Prop
  | some .encoded => frame.Encoded config
  | some (.captured bytes) => frame.Holds bytes
  | none => False

namespace Store

/-- What holds of every store with these settings and this history. -/
structure Sound (config : Config) (past : History) (store : Store) : Prop where
  settings : store.config = config
  distinct : (store.frames.map Frame.name).Nodup
  admissible : ∀ frame ∈ store.frames, frame.Admissible config
  origins : ∀ frame ∈ store.frames, frame.ComesFrom config (past.lookup frame.name)

variable {config : Config} {past : History} {store : Store}

/-- No other frame has the name of a frame. -/
theorem Sound.other_name {front back : List Frame} {old : Frame} (sound : store.Sound config past)
    (split : store.frames = front ++ old :: back) :
    ∀ other ∈ front ++ back, other.name ≠ old.name := by
  have distinct := sound.distinct
  rw [split, List.map_append, List.map_cons, List.nodup_middle, List.nodup_cons] at distinct
  intro other member same
  refine distinct.1 ?_
  rw [← List.map_append, ← same]
  exact List.mem_map_of_mem member

/-- Every frame is found under its name, whatever the other names start with. -/
theorem Sound.find?_name {frame : Frame} (sound : store.Sound config past)
    (member : frame ∈ store.frames) : store.find? frame.name = some frame := by
  have named : frame.name ≠ [] := (sound.admissible frame member).name_nonempty
  unfold find? findIndex?
  rw [if_neg named]
  cases found : store.position? frame.name with
  | none => exact absurd rfl (position?_eq_none.1 found frame member)
  | some index =>
    obtain ⟨front, old, back, split, rfl, same⟩ := position?_eq_some found
    have here : frame = old := by
      rw [split, List.mem_append, List.mem_cons] at member
      rcases member with inFront | rfl | inBack
      · exact absurd same.symm (sound.other_name split frame (List.mem_append_left _ inFront))
      · rfl
      · exact absurd same.symm (sound.other_name split frame (List.mem_append_right _ inBack))
    simp [split, here]

/-! ### One change -/

/-- A frame of another name keeps its origin. -/
theorem lookup_cons_of_ne {name other : Text} {origin : Origin} (different : other ≠ name) :
    List.lookup other ((name, origin) :: past) = past.lookup other := by
  rw [List.lookup_cons, beq_false_of_ne different]

theorem Sound.append {frame : Frame} (sound : store.Sound config past)
    (admissible : frame.Admissible config) (encoded : frame.Encoded config)
    (fresh : ∀ other ∈ store.frames, other.name ≠ frame.name) :
    ({ store with frames := store.frames ++ [frame] } : Store).Sound config
      ((frame.name, .encoded) :: past) := by
  refine ⟨sound.settings, ?_, ?_, ?_⟩
  · rw [List.map_append, List.nodup_append]
    refine ⟨sound.distinct, List.nodup_singleton _, ?_⟩
    intro name member last isLast same
    obtain ⟨other, inside, rfl⟩ := List.mem_map.1 member
    exact fresh other inside (same.trans (List.mem_singleton.1 isLast))
  · intro other member
    rcases List.mem_append.1 member with inside | last
    · exact sound.admissible other inside
    · exact List.mem_singleton.1 last ▸ admissible
  · intro other member
    rcases List.mem_append.1 member with inside | last
    · rw [lookup_cons_of_ne (fresh other inside)]
      exact sound.origins other inside
    · rw [List.mem_singleton.1 last, List.lookup_cons_self]
      exact encoded

theorem Sound.put {front back : List Frame} {old frame : Frame} {origin : Origin}
    (sound : store.Sound config past) (split : store.frames = front ++ old :: back)
    (named : frame.name = old.name) (admissible : frame.Admissible config)
    (came : frame.ComesFrom config (some origin)) :
    ({ store with frames := front ++ frame :: back } : Store).Sound config
      ((frame.name, origin) :: past) := by
  -- The other frames are the same as before, under other names.
  have kept : ∀ other ∈ front ++ frame :: back, other = frame ∨
      other ∈ store.frames ∧ other.name ≠ frame.name := by
    intro other member
    rw [List.mem_append, List.mem_cons] at member
    rcases member with inFront | rfl | inBack
    · have different := sound.other_name split other (List.mem_append_left _ inFront)
      exact .inr ⟨by simp [split, inFront], named ▸ different⟩
    · exact .inl rfl
    · have different := sound.other_name split other (List.mem_append_right _ inBack)
      exact .inr ⟨by simp [split, inBack], named ▸ different⟩
  refine ⟨sound.settings, ?_, ?_, ?_⟩
  · have distinct := sound.distinct
    rw [split] at distinct
    simpa [named] using distinct
  · intro other member
    rcases kept other member with rfl | ⟨inside, -⟩
    · exact admissible
    · exact sound.admissible other inside
  · intro other member
    rcases kept other member with rfl | ⟨inside, different⟩
    · rw [List.lookup_cons_self]
      exact came
    · rw [lookup_cons_of_ne different]
      exact sound.origins other inside

/-- Fewer frames in the same order. -/
theorem Sound.remove {frames : List Frame} (sound : store.Sound config past)
    (fewer : frames.Sublist store.frames) :
    ({ store with frames := frames } : Store).Sound config past :=
  ⟨sound.settings, sound.distinct.sublist (fewer.map Frame.name),
    fun frame member => sound.admissible frame (fewer.subset member),
    fun frame member => sound.origins frame (fewer.subset member)⟩

/-! ### One operation -/

theorem Sound.add (sound : store.Sound config past) (name text : Text) :
    (store.add name text).state.Sound config (past.encoded (store.add name text).result) := by
  rcases store.add_cases name text with ⟨e, refused, kept⟩ | ⟨frame, added, built, fresh, state⟩
  · rw [refused, kept]
    exact sound
  · rw [sound.settings] at built
    obtain ⟨-, -, admissible, encoded⟩ := build_spec built
    rw [added, state]
    exact sound.append admissible encoded fresh

theorem Sound.replace (sound : store.Sound config past) (name text : Text) :
    (store.replace name text).state.Sound config
      (past.encoded (store.replace name text).result) := by
  rcases store.replace_cases name text with
    ⟨e, refused, kept⟩ | ⟨front, old, back, frame, replaced, built, split, same, state⟩
  · rw [refused, kept]
    exact sound
  · rw [sound.settings] at built
    obtain ⟨named, -, admissible, encoded⟩ := build_spec built
    -- The name of a frame is trimmed, so that the new frame has the very name that was given.
    have trimmed : Text.trim name = name := by
      have stored := (sound.admissible old (by simp [split])).name_trimmed
      rwa [same] at stored
    rw [replaced, state]
    exact sound.put split (by rw [named, trimmed, same]) admissible encoded

theorem Sound.loadBytes (sound : store.Sound config past) (name : Text) (bytes : Bytes) :
    (store.loadBytes name bytes).state.Sound config
      (past.captured bytes (store.loadBytes name bytes).result) := by
  rcases store.loadBytes_cases name bytes with ⟨absent, kept⟩ | ⟨e, refused, kept⟩ |
    ⟨front, old, back, frame, changed, loaded, split, state⟩
  · rw [absent, kept]
    exact sound
  · rw [refused, kept]
    exact sound
  · obtain ⟨⟨named, described, capacity, used⟩, holds⟩ := Frame.loadBytes_spec loaded
    have before := sound.admissible old (by simp [split])
    have admissible : frame.Admissible config :=
      { name_trimmed := by rw [named]; exact before.name_trimmed
        name_nonempty := by rw [named]; exact before.name_nonempty
        name_short := by rw [named]; exact before.name_short
        text_trimmed := by rw [described]; exact before.text_trimmed
        text_nonempty := by rw [described]; exact before.text_nonempty
        text_short := by rw [described]; exact before.text_short
        capacity := capacity.trans before.capacity
        used := used }
    rw [changed, state]
    exact sound.put split named admissible holds

theorem Sound.addEntries (sound : store.Sound config past) (entries : List LoadEntry) :
    (addEntries entries store).state.Sound config (recordEntries entries store past) := by
  induction entries generalizing store past with
  | nil => exact sound
  | cons entry rest ih =>
    cases entry with
    | error e => exact sound
    | ok entry =>
      have first := sound.add entry.1 entry.2
      rw [Store.addEntries, recordEntries]
      cases added : (store.add entry.1 entry.2).result with
      | error e =>
        rw [added] at first
        rw [(Outcome.andThen_of_error added).2]
        exact first
      | ok frame =>
        rw [added] at first
        rw [(Outcome.andThen_of_ok added).2]
        exact ih first

theorem sound_perform (sound : store.Sound config past) (operation : Operation) :
    (store.perform operation).Sound config (store.record past operation) := by
  cases operation with
  | add name text => exact sound.add name text
  | replace name text => exact sound.replace name text
  | remove name =>
    rcases store.remove_cases name with ⟨e, -, kept⟩ | ⟨front, old, back, -, split, -, state⟩
    · rw [perform, kept]
      exact sound
    · rw [perform, state]
      exact sound.remove (by simp [split])
  | clear => exact sound.remove (List.nil_sublist _)
  | loadStrings strings =>
    rw [perform, (store.loadStrings_eq strings).2]
    exact sound.addEntries _
  | loadText content =>
    rw [perform, (store.loadText_eq content).2]
    exact sound.addEntries _
  | loadBytes name bytes => exact sound.loadBytes name bytes

/-! ## All runs -/

theorem sound_run (sound : store.Sound config past) (operations : List Operation) :
    (store.run operations).Sound config (store.history past operations) := by
  induction operations generalizing store past with
  | nil => exact sound
  | cons operation rest ih => exact ih (sound_perform sound operation)

theorem sound_create (config : Config) (room : Nat) : (create config room).state.Sound config [] :=
  ⟨rfl, List.nodup_nil, by simp [create], by simp [create]⟩

/-- Whatever is done to a store that is empty at first, with success or without: its frames have
distinct names, keep to the limits and have the contents that they were given last, and every one
of them is found under its own name. -/
theorem run_sound (config : Config) (room : Nat) (operations : List Operation) :
    let empty := (create config room).state
    (empty.run operations).Sound config (empty.history [] operations) ∧
      ∀ frame ∈ (empty.run operations).frames,
        (empty.run operations).find? frame.name = some frame := by
  intro empty
  have sound : (empty.run operations).Sound config (empty.history [] operations) :=
    sound_run (sound_create config room) operations
  exact ⟨sound, fun frame member => sound.find?_name member⟩

/-- Bytes go into the frame of exactly the name, not into one whose name starts with it, and calls
that fail leave no trace. -/
theorem run_sound_capture :
    let config : Config := { frameSize := 1514 }
    let operations : List Operation :=
      [.add " ab ".toList "Ether()".toList, .add "a".toList "Nothing()".toList,
        .add "a".toList "Ether()".toList, .replace "b".toList "IPv4()".toList,
        .loadBytes "a".toList [1, 2, 3]]
    let store := (create config 0).state.run operations
    (∃ frame, store.find? "a".toList = some frame ∧ frame.Holds [1, 2, 3]) ∧
      ∃ frame, store.find? "ab".toList = some frame ∧ frame.Encoded config := by
  intro config operations store
  have names : store.frames.map Frame.name = ["ab".toList, "a".toList] := by decide +kernel
  have past : (create config 0).state.history [] operations =
      [("a".toList, .captured [1, 2, 3]), ("a".toList, .encoded), ("ab".toList, .encoded)] := by
    decide +kernel
  obtain ⟨sound, found⟩ := run_sound config 0 operations
  rw [past] at sound
  have named : ∀ name ∈ store.frames.map Frame.name, ∃ frame ∈ store.frames, frame.name = name :=
    fun name => List.mem_map.1
  obtain ⟨first, firstInside, firstName⟩ := named "ab".toList (by rw [names]; decide)
  obtain ⟨second, secondInside, secondName⟩ := named "a".toList (by rw [names]; decide)
  have firstOrigin := sound.origins first firstInside
  have secondOrigin := sound.origins second secondInside
  rw [firstName] at firstOrigin
  rw [secondName] at secondOrigin
  exact ⟨⟨second, secondName ▸ found second secondInside, secondOrigin⟩,
    ⟨first, firstName ▸ found first firstInside, firstOrigin⟩⟩

end Store

end FrameText
