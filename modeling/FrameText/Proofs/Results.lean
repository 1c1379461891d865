import FrameText.Event

/-!
# Results — what a successful step had to do

Inversion of the steps of a computation that may fail, and where a failure comes from.
-/

namespace FrameText

variable {ε α β : Type}

theorem bind_eq_ok {x : Except ε α} {f : α → Except ε β} {b : β} :
    x >>= f = .ok b ↔ ∃ a, x = .ok a ∧ f a = .ok b := by
  cases x with
  | error e => simp [bind, Except.bind]
  | ok a => simp [bind, Except.bind]

theorem bind_eq_error {x : Except ε α} {f : α → Except ε β} {e : ε} :
    x >>= f = .error e ↔ x = .error e ∨ ∃ a, x = .ok a ∧ f a = .error e := by
  cases x with
  | error e => simp [bind, Except.bind]
  | ok a => simp [bind, Except.bind]

theorem map_eq_ok {x : Except ε α} {f : α → β} {b : β} :
    f <$> x = .ok b ↔ ∃ a, x = .ok a ∧ f a = b := by
  cases x with
  | error e => simp [Functor.map, Except.map]
  | ok a => simp [Functor.map, Except.map]

/-- A result that can be got back from what it is turned into is found where the other is. -/
theorem map_eq_ok_iff_of_inverse {x : Except ε α} {f : α → β} {g : β → α}
    (forth : ∀ b, f (g b) = b) (back : ∀ a, x = .ok a → g (f a) = a) {b : β} :
    x.map f = .ok b ↔ x = .ok (g b) := by
  refine map_eq_ok.trans ⟨?_, fun found => ⟨g b, found, forth b⟩⟩
  rintro ⟨a, found, rfl⟩
  rw [back a found, found]

theorem mapError_eq_ok {ε' : Type} {x : Except ε α} {f : ε → ε'} {a : α} :
    x.mapError f = .ok a ↔ x = .ok a := by
  cases x with
  | error e => exact iff_of_false (by rintro ⟨⟩) (by rintro ⟨⟩)
  | ok b =>
    constructor
    · rintro ⟨⟩
      rfl
    · rintro ⟨⟩
      rfl

theorem toOption_eq_some {x : Except ε α} {a : α} : x.toOption = some a ↔ x = .ok a := by
  cases x with
  | error e => simp [Except.toOption]
  | ok b => simp [Except.toOption]

/-- Reading a list succeeds where the first element and the others can be read. -/
theorem mapM_cons_eq_ok {f : α → Except ε β} {a : α} {rest : List α} {bs : List β} :
    (a :: rest).mapM f = .ok bs ↔
      ∃ b behind, f a = .ok b ∧ rest.mapM f = .ok behind ∧ bs = b :: behind := by
  rw [List.mapM_cons, bind_eq_ok]
  constructor
  · rintro ⟨b, first, others⟩
    rcases bind_eq_ok.1 others with ⟨behind, found, result⟩
    cases result
    exact ⟨b, behind, first, found, rfl⟩
  · rintro ⟨b, behind, first, found, rfl⟩
    exact ⟨b, first, bind_eq_ok.2 ⟨behind, found, rfl⟩⟩

/-- Reading two lists in order reads the joined list. -/
theorem mapM_append_eq_ok {f : α → Except ε β} {front back : List α} {bs : List β} :
    (front ++ back).mapM f = .ok bs ↔
      ∃ before behind, front.mapM f = .ok before ∧ back.mapM f = .ok behind ∧
        bs = before ++ behind := by
  rw [List.mapM_append, bind_eq_ok]
  constructor
  · rintro ⟨before, first, others⟩
    rcases bind_eq_ok.1 others with ⟨behind, found, result⟩
    cases result
    exact ⟨before, behind, first, found, rfl⟩
  · rintro ⟨before, behind, first, found, rfl⟩
    exact ⟨before, first, bind_eq_ok.2 ⟨behind, found, rfl⟩⟩

/-- What is read around a result was read from what stands around its source. -/
theorem exists_split_of_mapM {f : α → Except ε β} {as : List α} {before after : List β} {b : β}
    (mapped : as.mapM f = .ok (before ++ b :: after)) :
    ∃ front a back, as = front ++ a :: back ∧ front.mapM f = .ok before ∧ f a = .ok b ∧
      back.mapM f = .ok after := by
  induction before generalizing as with
  | nil =>
    cases as with
    | nil => cases mapped
    | cons a rest =>
      rcases mapM_cons_eq_ok.1 mapped with ⟨_, _, first, behind, result⟩
      cases result
      exact ⟨[], a, rest, rfl, rfl, first, behind⟩
  | cons c before ih =>
    cases as with
    | nil => cases mapped
    | cons a rest =>
      rcases mapM_cons_eq_ok.1 mapped with ⟨_, _, first, behind, result⟩
      cases result
      obtain ⟨front, middle, back, rfl, frontRead, middleRead, backRead⟩ := ih behind
      exact ⟨a :: front, middle, back, rfl,
        mapM_cons_eq_ok.2 ⟨c, before, first, frontRead, rfl⟩, middleRead, backRead⟩

theorem length_of_mapM {f : α → Except ε β} {as : List α} {bs : List β}
    (mapped : as.mapM f = .ok bs) : bs.length = as.length := by
  induction as generalizing bs with
  | nil =>
    cases mapped
    rfl
  | cons a rest ih =>
    rcases mapM_cons_eq_ok.1 mapped with ⟨first, others, -, later, rfl⟩
    exact congrArg (· + 1) (ih later)

/-! ## Where a failure comes from -/

/-- Reading a list fails as one of its elements does. -/
theorem exists_of_mapM_error {f : α → Except ε β} {as : List α} {e : ε}
    (failed : as.mapM f = .error e) : ∃ a ∈ as, f a = .error e := by
  induction as with
  | nil => cases failed
  | cons a rest ih =>
    rw [List.mapM_cons] at failed
    rcases bind_eq_error.1 failed with first | ⟨b, -, others⟩
    · exact ⟨a, List.mem_cons_self, first⟩
    · rcases bind_eq_error.1 others with behind | ⟨_, -, done⟩
      · obtain ⟨culprit, member, unread⟩ := ih behind
        exact ⟨culprit, List.mem_cons_of_mem a member, unread⟩
      · cases done

/-- Going through a list fails as one of the steps does. -/
theorem exists_of_foldlM_error {f : β → α → Except ε β} {as : List α} {b : β} {e : ε}
    (failed : as.foldlM f b = .error e) : ∃ state, ∃ a ∈ as, f state a = .error e := by
  induction as generalizing b with
  | nil => cases failed
  | cons a rest ih =>
    rw [List.foldlM_cons] at failed
    rcases bind_eq_error.1 failed with first | ⟨state, -, others⟩
    · exact ⟨b, a, List.mem_cons_self, first⟩
    · obtain ⟨reached, culprit, member, stopped⟩ := ih others
      exact ⟨reached, culprit, List.mem_cons_of_mem a member, stopped⟩

end FrameText
