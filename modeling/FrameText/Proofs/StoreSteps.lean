import FrameText.Proofs.Building
import FrameText.Proofs.Words
import FrameText.Store

/-!
# Store steps — what a single operation does to the frames

A store changes by one frame at a time, and only by an operation that succeeds.

1. `Frame.Admissible` describes the frames that a store keeps; `Frame.Encoded` and `Frame.Holds` are
   the two ways in which their contents come about.
2. `Store.build_spec` and `Frame.loadBytes_spec` say so of new and of changed frames.
3. `Store.build_of_encode` and `Store.build_of_long` say when a frame is built.
4. `Store.add_cases`, `Store.replace_cases`, `Store.remove_cases` and `Store.loadBytes_cases` list
   everything that an operation can do.
-/

namespace FrameText

/-! ## Frames of a store -/

namespace Frame

/-- Whether a frame keeps to the limits of a store with these settings. -/
structure Admissible (config : Config) (frame : Frame) : Prop where
  name_trimmed : Text.trim frame.name = frame.name
  name_nonempty : frame.name ≠ []
  name_short : Text.byteLength frame.name ≤ 32
  text_trimmed : Text.trim frame.text = frame.text
  text_nonempty : frame.text ≠ []
  text_short : Text.byteLength frame.text ≤ 4096
  capacity : frame.capacity = config.frameSize
  used : frame.dataLen ≤ frame.capacity

/-- Whether a frame is what the encoder makes of a fresh frame with the same description and
capacity. -/
def Encoded (config : Config) (frame : Frame) : Prop :=
  ((new frame.name frame.text frame.capacity).encode config).result = .ok () ∧
    ((new frame.name frame.text frame.capacity).encode config).state = frame

/-- Whether a frame consists of captured bytes, of which no headers are recorded. -/
def Holds (bytes : Bytes) (frame : Frame) : Prop :=
  frame.data = bytes ∧ frame.tscOffset = none ∧ frame.l2 = none ∧ frame.l3 = none ∧ frame.l4 = none

/-- A fresh frame with captured bytes at the start of its buffer. -/
def captured (name text : Text) (capacity : Nat) (bytes : Bytes) : Frame :=
  { new name text capacity with
    buffer := bytes ++ List.replicate (capacity - bytes.length) 0
    dataLen := bytes.length }

theorem holds_captured (name text : Text) (capacity : Nat) (bytes : Bytes) :
    (captured name text capacity bytes).Holds bytes := by
  refine ⟨?_, rfl, rfl, rfl, rfl⟩
  simp [data, captured]

theorem keeps_captured {frame : Frame} {bytes : Bytes} (room : bytes.length ≤ frame.capacity) :
    frame.Keeps (captured frame.name frame.text frame.capacity bytes) := by
  have capacity : (captured frame.name frame.text frame.capacity bytes).capacity =
      frame.capacity := by
    rw [Frame.capacity, captured, List.length_append, List.length_replicate,
      Nat.add_sub_cancel' room]
  exact ⟨rfl, rfl, capacity, Nat.le_trans room (Nat.le_of_eq capacity.symm)⟩

/-- Captured bytes take the place of all contents, or of none. -/
theorem loadBytes_eq (frame : Frame) (bytes : Bytes) :
    frame.loadBytes bytes =
      if frame.capacity < bytes.length then
        .error (.bufferOverflow bytes.length frame.capacity)
      else
        .ok (captured frame.name frame.text frame.capacity bytes) := by
  have written : Bytes.overwrite frame.reset.buffer 0 bytes =
      bytes ++ List.replicate (frame.capacity - bytes.length) 0 := by
    simp [Bytes.overwrite, reset, new]
  rw [loadBytes, written]
  rfl

/-- Captured bytes that fit take the place of the contents, and nothing else changes. -/
theorem loadBytes_spec {frame loaded : Frame} {bytes : Bytes}
    (success : frame.loadBytes bytes = .ok loaded) :
    frame.Keeps loaded ∧ loaded.Holds bytes := by
  rw [loadBytes_eq] at success
  split at success
  · cases success
  · rename_i fits
    cases success
    exact ⟨keeps_captured (Nat.le_of_not_lt fits), holds_captured _ _ _ _⟩

end Frame

/-! ## Building a frame -/

namespace Store

/-- Only admissible frames are built, from the trimmed name and description. -/
theorem build_spec {config : Config} {name text : Text} {frame : Frame}
    (built : (build config name text).1 = .ok frame) :
    frame.name = Text.trim name ∧ frame.text = Text.trim text ∧ frame.Admissible config ∧
      frame.Encoded config := by
  unfold build at built
  simp only at built
  split at built
  · cases built
  · rename_i named
    split at built
    · cases built
    · rename_i described
      split at built
      · cases built
      · rename_i short
        split at built
        · rename_i success
          cases built
          obtain ⟨sameName, sameText, capacity, used⟩ :=
            (Frame.new (Text.trim name) (Text.trim text) config.frameSize).encode_keeps config
          have size : (Frame.new (Text.trim name) (Text.trim text) config.frameSize).capacity =
              config.frameSize := List.length_replicate
          obtain ⟨nonempty, fits⟩ := not_or.1 named
          refine ⟨sameName, sameText, ?_, ?_⟩
          · exact
              { name_trimmed := by rw [sameName]; exact Text.trim_trim name
                name_nonempty := by rw [sameName]; exact nonempty
                name_short := by rw [sameName]; exact Nat.le_of_not_lt fits
                text_trimmed := by rw [sameText]; exact Text.trim_trim text
                text_nonempty := by rw [sameText]; exact described
                text_short := by rw [sameText]; exact Nat.le_of_not_lt short
                capacity := capacity.trans size
                used := used }
          · unfold Frame.Encoded
            rw [sameName, sameText, capacity, size]
            exact ⟨success, rfl⟩
        · cases built

section Building

variable {config : Config} {name text : Text}

/-- Where the name and the description keep to their limits, the encoder has the last word. -/
theorem build_of_encode (named : Text.trim name ≠ [])
    (short : Text.byteLength (Text.trim name) ≤ 32) (described : Text.trim text ≠ [])
    (fits : Text.byteLength (Text.trim text) ≤ 4096)
    (success : ((Frame.new (Text.trim name) (Text.trim text) config.frameSize).encode
      config).result = .ok ()) :
    (build config name text).1 =
      .ok ((Frame.new (Text.trim name) (Text.trim text) config.frameSize).encode config).state := by
  have valid : ¬ (Text.trim name = [] ∨ Limits.maxNameLength < Text.byteLength (Text.trim name)) :=
    not_or.2 ⟨named, Nat.not_lt_of_le short⟩
  have bounded : ¬ Limits.maxTextLength < Text.byteLength (Text.trim text) :=
    Nat.not_lt_of_le fits
  unfold build
  simp only [if_neg valid, if_neg described, if_neg bounded, success]

/-- A description that is too long is refused before it is read. -/
theorem build_of_long (named : Text.trim name ≠ [])
    (short : Text.byteLength (Text.trim name) ≤ 32) (described : Text.trim text ≠ [])
    (long : 4096 < Text.byteLength (Text.trim text)) :
    (build config name text).1 =
      .error (.textTooLong (Text.byteLength (Text.trim text)) 4096) := by
  have valid : ¬ (Text.trim name = [] ∨ Limits.maxNameLength < Text.byteLength (Text.trim name)) :=
    not_or.2 ⟨named, Nat.not_lt_of_le short⟩
  have unbounded : Limits.maxTextLength < Text.byteLength (Text.trim text) := long
  unfold build
  simp only [if_neg valid, if_neg described, if_pos unbounded]
  rfl

end Building

/-! ## Places in a list of frames -/

section Places

variable {store : Store} {name text : Text}

/-- A place splits the frames. -/
theorem exists_split {index : Nat} {old : Frame} (here : store.frames[index]? = some old) :
    ∃ front back, store.frames = front ++ old :: back ∧ front.length = index := by
  obtain ⟨inside, rfl⟩ := List.getElem?_eq_some_iff.1 here
  refine ⟨store.frames.take index, store.frames.drop (index + 1), ?_, ?_⟩
  · simp
  · simp [Nat.le_of_lt inside]

theorem position?_eq_some {index : Nat} (found : store.position? name = some index) :
    ∃ front old back, store.frames = front ++ old :: back ∧ front.length = index ∧
      old.name = name := by
  obtain ⟨inside, named, -⟩ := List.findIdx?_eq_some_iff_getElem.1 found
  obtain ⟨front, back, split, length⟩ := exists_split (List.getElem?_eq_getElem inside)
  exact ⟨front, _, back, split, length, by simpa using named⟩

theorem position?_eq_none :
    store.position? name = none ↔ ∀ other ∈ store.frames, other.name ≠ name := by
  simp [position?, List.findIdx?_eq_none_iff]

/-- Another frame at the place behind `front`. -/
theorem set_frames {front back : List Frame} {old frame : Frame}
    (split : store.frames = front ++ old :: back) :
    store.set front.length frame = { store with frames := front ++ frame :: back } := by
  simp [set, split]

end Places

/-! ## Operations -/

section Operations

variable (store : Store) (name text : Text)

/-- A frame is added behind all others, under a name that none of them has. -/
theorem add_cases :
    (∃ e, (store.add name text).result = .error e ∧ (store.add name text).state = store) ∨
      ∃ frame, (store.add name text).result = .ok frame ∧
        (build store.config name text).1 = .ok frame ∧
        (∀ other ∈ store.frames, other.name ≠ frame.name) ∧
        (store.add name text).state = { store with frames := store.frames ++ [frame] } := by
  unfold add
  split
  · exact .inl ⟨_, rfl, rfl⟩
  · rename_i fresh
    split
    · exact .inl ⟨_, rfl, rfl⟩
    · rename_i frame events built
      have made : (build store.config name text).1 = .ok frame := by rw [built]
      refine .inr ⟨frame, rfl, made, ?_, rfl⟩
      rw [(build_spec made).1]
      exact position?_eq_none.1 (by simpa using fresh)

/-- Under a name that no frame has, the frame is added that can be built. -/
theorem add_of_fresh (fresh : ∀ other ∈ store.frames, other.name ≠ Text.trim name) :
    (store.add name text).result = (build store.config name text).1 ∧
      (store.add name text).state =
        match (build store.config name text).1 with
        | .ok frame => { store with frames := store.frames ++ [frame] }
        | .error _ => store := by
  have absent : ¬ (store.position? (Text.trim name)).isSome = true := by
    rw [position?_eq_none.2 fresh]
    exact Bool.false_ne_true
  unfold add
  rw [if_neg absent]
  cases build store.config name text with
  | mk built events => cases built <;> exact ⟨rfl, rfl⟩

/-- A frame of exactly this name is replaced in its place. -/
theorem replace_cases :
    (∃ e, (store.replace name text).result = .error e ∧ (store.replace name text).state = store) ∨
      ∃ front old back frame, (store.replace name text).result = .ok frame ∧
        (build store.config name text).1 = .ok frame ∧
        store.frames = front ++ old :: back ∧ old.name = name ∧
        (store.replace name text).state = { store with frames := front ++ frame :: back } := by
  unfold replace
  split
  · exact .inl ⟨_, rfl, rfl⟩
  · rename_i index found
    obtain ⟨front, old, back, split, rfl, named⟩ := position?_eq_some found
    split
    · exact .inl ⟨_, rfl, rfl⟩
    · rename_i frame events built
      exact .inr ⟨front, old, back, frame, rfl, by rw [built], split, named, set_frames split⟩

/-- A frame of exactly this name is removed. -/
theorem remove_cases :
    (∃ e, (store.remove name).result = .error e ∧ (store.remove name).state = store) ∨
      ∃ front old back, (store.remove name).result = .ok old ∧
        store.frames = front ++ old :: back ∧ old.name = name ∧
        (store.remove name).state = { store with frames := front ++ back } := by
  unfold remove
  split
  · exact .inl ⟨_, rfl, rfl⟩
  · rename_i old found
    obtain ⟨named, front, back, split, before⟩ := List.find?_eq_some_iff_append.1 found
    have others : ∀ other ∈ front, ¬ (other.name == name) = true := by
      intro other member
      simpa using before other member
    have same : old.name = name := by simpa using named
    have erased : store.frames.eraseP (fun frame => frame.name == name) = front ++ back := by
      rw [split, List.eraseP_append_right _ others]
      simp [same]
    exact .inr ⟨front, old, back, rfl, split, same, by simp [erased]⟩

/-- Captured bytes go into the frame that is found under the name, if there is one. -/
theorem loadBytes_cases (bytes : Bytes) :
    ((store.loadBytes name bytes).result = .ok none ∧
        (store.loadBytes name bytes).state = store) ∨
      (∃ e, (store.loadBytes name bytes).result = .error e ∧
        (store.loadBytes name bytes).state = store) ∨
      ∃ front old back frame, (store.loadBytes name bytes).result = .ok (some frame) ∧
        old.loadBytes bytes = .ok frame ∧ store.frames = front ++ old :: back ∧
        (store.loadBytes name bytes).state = { store with frames := front ++ frame :: back } := by
  unfold loadBytes
  split
  · exact .inl ⟨rfl, rfl⟩
  · rename_i index _
    split
    · exact .inl ⟨rfl, rfl⟩
    · rename_i old here
      obtain ⟨front, back, split, rfl⟩ := exists_split here
      split
      · exact .inr (.inl ⟨_, rfl, rfl⟩)
      · rename_i frame loaded
        exact .inr (.inr ⟨front, old, back, frame, rfl, loaded, split, set_frames split⟩)

end Operations

end Store

end FrameText
