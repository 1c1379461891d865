import FrameText.Proofs.StoreSteps

/-!
# Look-up — the frame that a name stands for

A name stands for the frame of exactly that name, and otherwise for the first frame whose name
starts with it.  Captured bytes change the contents of that frame, and with them nothing that a
later look-up sees.

1. `Store.Resolves` says which frame a name stands for, and `Store.find?_eq_some_iff` that this is
   the one that is found.
2. `Store.label_find?` finds the name and the capacity of that frame among the labels of all frames.
3. `Store.loadBytes_eq_some_iff` and `Store.labels_loadBytes`: what is loaded goes into the frame
   that is found, and no label changes.
-/

namespace FrameText

/-- What a look-up tells of a frame: its name, and how many bytes it has room for. -/
def Frame.label (frame : Frame) : Text × Nat :=
  (frame.name, frame.capacity)

/-- The first place where a list has an element of a kind is the place of the first such element. -/
theorem bind_findIdx? {α : Type} (p : α → Bool) (l : List α) :
    (l.findIdx? p).bind (l[·]?) = l.find? p := by
  induction l with
  | nil => rfl
  | cons a rest ih =>
    rw [List.findIdx?_cons, List.find?_cons]
    cases p a with
    | true => rfl
    | false =>
      rw [← ih]
      cases rest.findIdx? p <;> rfl

namespace Store

/-- The labels of all frames, in order. -/
def labels (store : Store) : List (Text × Nat) :=
  store.frames.map Frame.label

/-- Whether a frame is the one that a name stands for: the frame of exactly this name, or, where
there is none, the first one whose name starts with it. -/
def Resolves (store : Store) (name : Text) (frame : Frame) : Prop :=
  ∃ front back, store.frames = front ++ frame :: back ∧
    ((frame.name = name ∧ ∀ other ∈ front, other.name ≠ name) ∨
      ((∀ other ∈ store.frames, other.name ≠ name) ∧ name <+: frame.name ∧
        ∀ other ∈ front, ¬ name <+: other.name))

variable {store : Store} {name : Text} {frame : Frame}

/-! ## The frame that is found -/

theorem find?_eq (named : name ≠ []) :
    store.find? name =
      (store.frames.find? fun frame => frame.name == name).or
        (store.frames.find? fun frame => name.isPrefixOf frame.name) := by
  rw [← bind_findIdx?, ← bind_findIdx?, find?, findIndex?, if_neg named]
  cases found : store.position? name with
  | none =>
    have absent : store.frames.findIdx? (fun frame => frame.name == name) = none := found
    rw [absent]
    rfl
  | some index =>
    have exact : store.frames.findIdx? (fun frame => frame.name == name) = some index := found
    obtain ⟨inside, -⟩ := List.findIdx?_eq_some_iff_getElem.1 exact
    rw [exact, Option.bind_some, List.getElem?_eq_getElem inside, Option.some_or]
    exact List.getElem?_eq_getElem inside

/-- The frame that is found is the one that the name stands for. -/
theorem find?_eq_some_iff (named : name ≠ []) :
    store.find? name = some frame ↔ store.Resolves name frame := by
  rw [find?_eq named, Option.or_eq_some_iff, List.find?_eq_some_iff_append,
    List.find?_eq_some_iff_append, List.find?_eq_none]
  simp only [beq_iff_eq, List.isPrefixOf_iff_prefix, Bool.not_eq_true', ← Bool.not_eq_true]
  constructor
  · rintro (⟨exact, front, back, split, others⟩ | ⟨absent, starts, front, back, split, others⟩)
    · exact ⟨front, back, split, .inl ⟨exact, others⟩⟩
    · exact ⟨front, back, split, .inr ⟨absent, starts, others⟩⟩
  · rintro ⟨front, back, split, ⟨exact, others⟩ | ⟨absent, starts, others⟩⟩
    · exact .inl ⟨exact, front, back, split, others⟩
    · exact .inr ⟨absent, starts, front, back, split, others⟩

/-! ## Labels -/

/-- The label of the frame that is found is found among the labels. -/
theorem label_find? (named : name ≠ []) :
    (store.find? name).map Frame.label =
      (store.labels.find? fun label => label.1 == name).or
        (store.labels.find? fun label => name.isPrefixOf label.1) := by
  rw [find?_eq named, labels, List.find?_map, List.find?_map, ← Option.map_or]
  rfl

/-- Captured bytes go into the frame that is found. -/
theorem result_loadBytes (store : Store) (name : Text) (bytes : Bytes) :
    (store.loadBytes name bytes).result =
      match store.find? name with
      | none => .ok none
      | some frame => (frame.loadBytes bytes).map some := by
  unfold loadBytes find?
  cases store.findIndex? name with
  | none => rfl
  | some index =>
    simp only [Option.bind_some]
    cases store.frames[index]? with
    | none => rfl
    | some frame =>
      simp only
      cases frame.loadBytes bytes <;> rfl

/-- They are loaded where a frame is found that has room for them. -/
theorem loadBytes_eq_some_iff {bytes : Bytes} {loaded : Frame} :
    (store.loadBytes name bytes).result = .ok (some loaded) ↔
      ∃ frame, store.find? name = some frame ∧ bytes.length ≤ frame.capacity ∧
        loaded = Frame.captured frame.name frame.text frame.capacity bytes := by
  rw [result_loadBytes]
  cases store.find? name with
  | none => simp
  | some frame =>
    simp only [Frame.loadBytes_eq]
    by_cases small : frame.capacity < bytes.length
    · have full : ¬ bytes.length ≤ frame.capacity := Nat.not_le_of_lt small
      simp [small, full, Except.map]
    · have room : bytes.length ≤ frame.capacity := Nat.le_of_not_lt small
      simp [small, room, Except.map, eq_comm]

/-- They change no label. -/
theorem labels_loadBytes (store : Store) (name : Text) (bytes : Bytes) :
    (store.loadBytes name bytes).state.labels = store.labels := by
  rcases store.loadBytes_cases name bytes with ⟨-, kept⟩ | ⟨e, -, kept⟩ | ⟨front, old, back, frame,
    -, loaded, split, state⟩
  · rw [kept]
  · rw [kept]
  · obtain ⟨sameName, -, sameCapacity, -⟩ := (Frame.loadBytes_spec loaded).1
    have same : frame.label = old.label := by
      rw [Frame.label, sameName, sameCapacity, Frame.label]
    rw [state, labels, labels, split, List.map_append, List.map_cons, same, ← List.map_cons,
      ← List.map_append]

end Store

end FrameText
