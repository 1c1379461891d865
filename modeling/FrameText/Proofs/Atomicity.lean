import FrameText.Proofs.StoreRuns

/-!
# Atomicity — a store changes as asked or not at all

1. `Store.Exchanges` is a change in the place of one name.
2. `Store.run_atomic` says of every store that a run leaves which operations change it, and how.
-/

namespace FrameText

namespace Store

/-- Whether other frames stand in the place of the only frame of this name, and nothing else is
changed. -/
def Exchanges (store : Store) (name : Text) (frames : List Frame) (later : Store) : Prop :=
  ∃ front old back, store.frames = front ++ old :: back ∧ old.name = name ∧
    (∀ other ∈ front ++ back, other.name ≠ name) ∧
    later = { store with frames := front ++ frames ++ back }

variable {config : Config} {past : History} {store : Store}

/-- A frame that is replaced keeps its place and its name. -/
theorem Sound.exchanges_replace {name text : Text} {frame : Frame}
    (sound : store.Sound config past) (replaced : (store.replace name text).result = .ok frame) :
    frame.name = name ∧ store.Exchanges name [frame] (store.replace name text).state := by
  rcases store.replace_cases name text with
    ⟨e, refused, -⟩ | ⟨front, old, back, new, found, built, split, rfl, state⟩
  · rw [refused] at replaced
    cases replaced
  · obtain rfl : new = frame := Except.ok.inj (found.symm.trans replaced)
    have trimmed := (sound.admissible old (by simp [split])).name_trimmed
    refine ⟨(build_spec built).1.trans trimmed, front, old, back, split, rfl,
      sound.other_name split, ?_⟩
    rw [state, List.append_assoc, List.singleton_append]

/-- A frame that is removed leaves the others in order. -/
theorem Sound.exchanges_remove {name : Text} {frame : Frame} (sound : store.Sound config past)
    (removed : (store.remove name).result = .ok frame) :
    frame.name = name ∧ store.Exchanges name [] (store.remove name).state := by
  rcases store.remove_cases name with ⟨e, refused, -⟩ | ⟨front, old, back, found, split, rfl, state⟩
  · rw [refused] at removed
    cases removed
  · obtain rfl : old = frame := Except.ok.inj (found.symm.trans removed)
    refine ⟨rfl, front, old, back, split, rfl, sound.other_name split, ?_⟩
    rw [state, List.append_nil]

/-- Whatever was done to a store before, a single operation that fails leaves it as it is, a bulk
load adds the entries in front of the first one that fails, and an operation on one frame changes
its place only. -/
theorem run_atomic (config : Config) (room : Nat) (operations : List Operation) :
    let store := (create config room).state.run operations
    (∀ name text e, (store.add name text).result = .error e →
      (store.add name text).state = store) ∧
    (∀ name text e, (store.replace name text).result = .error e →
      (store.replace name text).state = store) ∧
    (∀ name e, (store.remove name).result = .error e → (store.remove name).state = store) ∧
    (∀ name bytes e, (store.loadBytes name bytes).result = .error e →
      (store.loadBytes name bytes).state = store) ∧
    (∀ strings, store.LoadsInOrder (stringEntries strings) (store.loadStrings strings).result
      (store.loadStrings strings).state) ∧
    (∀ content, store.LoadsInOrder (fileEntries content) (store.loadText content).result
      (store.loadText content).state) ∧
    (∀ name text frame, (store.replace name text).result = .ok frame →
      frame.name = name ∧ store.Exchanges name [frame] (store.replace name text).state) ∧
    (∀ name frame, (store.remove name).result = .ok frame →
      frame.name = name ∧ store.Exchanges name [] (store.remove name).state) := by
  intro store
  have sound : store.Sound config ((create config room).state.history [] operations) :=
    sound_run (sound_create config room) operations
  refine ⟨?_, ?_, ?_, ?_, store.loadStrings_inOrder, store.loadText_inOrder,
    fun name text frame => sound.exchanges_replace, fun name frame => sound.exchanges_remove⟩
  · intro name text e failed
    rcases store.add_cases name text with ⟨-, -, kept⟩ | ⟨frame, added, -⟩
    · exact kept
    · simp [added] at failed
  · intro name text e failed
    rcases store.replace_cases name text with ⟨-, -, kept⟩ | ⟨-, -, -, frame, replaced, -⟩
    · exact kept
    · simp [replaced] at failed
  · intro name e failed
    rcases store.remove_cases name with ⟨-, -, kept⟩ | ⟨front, old, back, removed, -⟩
    · exact kept
    · simp [removed] at failed
  · intro name bytes e failed
    rcases store.loadBytes_cases name bytes with ⟨-, kept⟩ | ⟨-, -, kept⟩ |
      ⟨-, -, -, frame, loaded, -⟩
    · exact kept
    · exact kept
    · simp [loaded] at failed

/-- A bulk load stops at a name that is taken, and keeps what it added in front of it. -/
theorem run_atomic_taken :
    let store := (create { frameSize := 1514 } 0).state.run [.add "a".toList "Ether()".toList]
    let strings := ["b:=Ether()".toList, "a:=IPv4()".toList, "c:=Ether()".toList]
    let later := (store.loadStrings strings).state
    later.frames.map Frame.name = ["a".toList, "b".toList] ∧
      store.LoadsInOrder (stringEntries strings) (.error (.alreadyExists "a".toList)) later := by
  intro store strings later
  have names : later.frames.map Frame.name = ["a".toList, "b".toList] := by decide +kernel
  have failed : (store.loadStrings strings).result = .error (.alreadyExists "a".toList) := by
    decide +kernel
  have atomic := run_atomic { frameSize := 1514 } 0 [.add "a".toList "Ether()".toList]
  have stops : ∀ strings e, (store.loadStrings strings).result = .error e →
      store.LoadsInOrder (stringEntries strings) (.error e) (store.loadStrings strings).state := by
    intro strings e failed
    rw [← failed]
    exact atomic.2.2.2.2.1 strings
  exact ⟨names, stops strings _ failed⟩

end Store

end FrameText
