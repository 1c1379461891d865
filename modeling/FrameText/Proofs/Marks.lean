import FrameText.Proofs.Words

/-!
# Marks — where a text is cut in two

The first `//` of a line starts its comment and the first `:=` of a definition ends its name.

1. `cut?_eq_none_iff`, `not_infix_of_cut?`, `cut?_of_first`, `cut?_append_mark` and
   `cut?_singleton_eq_some_iff` say where `cut?` cuts.
2. `not_pair_infix_append` and `not_pair_infix_join` say when a mark of two characters does not stand
   in texts that are put together.
3. `head?_join` and `getLast?_join` find the ends of joined texts.
-/

namespace FrameText

namespace Text

variable {a b : Char} {s t : Text}

/-! ## Cuts -/

/-- A text is cut wherever the mark stands in it. -/
theorem cut?_eq_none_iff {mark : Text} (nonempty : mark ≠ []) :
    cut? mark s = none ↔ ¬ mark <:+: s := by
  induction s with
  | nil =>
    have absent : ¬ mark <:+: [] := fun here => nonempty (List.infix_nil.1 here)
    exact iff_of_true rfl absent
  | cons c s ih =>
    rw [cut?, List.infix_cons_iff, not_or, ← ih]
    cases here : stripStart? mark (c :: s) with
    | some rest =>
      have opens : mark <+: c :: s := ⟨rest, (stripStart?_eq_some_iff.1 here).symm⟩
      exact iff_of_false (fun impossible => by cases impossible) (fun absent => absent.1 opens)
    | none =>
      have closed : ¬ mark <+: c :: s := by
        rintro ⟨rest, whole⟩
        rw [stripStart?_eq_some_iff.2 whole.symm] at here
        cases here
      rw [Option.map_eq_none_iff]
      exact (and_iff_right closed).symm

/-- No mark stands in front of the place where a text is cut. -/
theorem not_infix_of_cut? {mark before behind : Text} (nonempty : mark ≠ [])
    (cut : cut? mark s = some (before, behind)) : ¬ mark <:+: before := by
  induction s generalizing before with
  | nil => cases cut
  | cons c s ih =>
    rw [cut?] at cut
    cases here : stripStart? mark (c :: s) with
    | some rest =>
      rw [here] at cut
      cases cut
      exact fun inside => nonempty (List.infix_nil.1 inside)
    | none =>
      rw [here] at cut
      obtain ⟨⟨front, rest⟩, later, same⟩ := Option.map_eq_some_iff.1 cut
      cases same
      -- A mark at the very start would have been found there.
      have closed : ¬ mark <+: c :: front := by
        intro opens
        have whole : c :: front <+: c :: s := by
          rw [eq_of_cut?_eq_some later, List.append_assoc]
          exact List.prefix_append (c :: front) _
        obtain ⟨tail, split⟩ := opens.trans whole
        rw [stripStart?_eq_some_iff.2 split.symm] at here
        cases here
      rw [List.infix_cons_iff, not_or]
      exact ⟨closed, ih later⟩

/-- A text is cut at the first mark: one that is not preceded by another, nor overlapped by one that
starts in front of it. -/
theorem cut?_of_first (first : ¬ [a, b] <:+: s ++ [a]) (t : Text) :
    cut? [a, b] (s ++ a :: b :: t) = some (s, t) := by
  induction s with
  | nil => simp [cut?, stripStart?]
  | cons c s ih =>
    have later : cut? [a, b] (s ++ a :: b :: t) = some (s, t) :=
      ih fun inside => first (inside.trans (List.suffix_cons c (s ++ [a])).isInfix)
    -- A mark at the very start would lie in front of the one that is meant.
    have notHere : stripStart? [a, b] (c :: (s ++ a :: b :: t)) = none := by
      refine Option.eq_none_iff_forall_ne_some.2 fun rest here => first ?_
      have long : [a, b] <+: c :: (s ++ a :: b :: t) :=
        ⟨rest, (stripStart?_eq_some_iff.1 here).symm⟩
      have front : c :: s ++ [a] <+: c :: (s ++ a :: b :: t) := ⟨b :: t, by simp⟩
      exact (List.prefix_of_prefix_length_le long front (by simp)).isInfix
    rw [List.cons_append, cut?, notHere]
    simp only [later, Option.map_some]

/-- A text with a mark in it is cut no later than there. -/
theorem cut?_append_mark {mark : Text} (nonempty : mark ≠ []) (s t : Text) :
    ∃ before behind, cut? mark (s ++ mark ++ t) = some (before, behind) ∧ before <+: s := by
  cases cut : cut? mark (s ++ mark ++ t) with
  | none => exact absurd (List.infix_append s mark t) ((cut?_eq_none_iff nonempty).1 cut)
  | some parts =>
    refine ⟨parts.1, parts.2, rfl, ?_⟩
    induction s generalizing parts with
    | nil =>
      obtain ⟨c, others, rfl⟩ := List.exists_cons_of_ne_nil nonempty
      have opens : stripStart? (c :: others) (c :: others ++ t) = some t :=
        stripStart?_eq_some_iff.2 rfl
      rw [List.nil_append, List.cons_append, cut?, ← List.cons_append, opens] at cut
      exact Option.some.inj cut ▸ List.nil_prefix
    | cons c s ih =>
      rw [List.cons_append, List.cons_append, cut?] at cut
      split at cut
      · exact Option.some.inj cut ▸ List.nil_prefix
      · obtain ⟨later, rest, rfl⟩ := Option.map_eq_some_iff.1 cut
        exact List.cons_prefix_cons.2 ⟨rfl, ih later rest⟩

/-- A text is cut at a single character where this stands for the first time. -/
theorem cut?_singleton_eq_some_iff {before behind : Text} :
    cut? [a] s = some (before, behind) ↔ s = before ++ a :: behind ∧ a ∉ before := by
  constructor
  · intro cut
    have whole : s = before ++ a :: behind := by
      rw [eq_of_cut?_eq_some cut, List.append_assoc, List.singleton_append]
    refine ⟨whole, fun inside => ?_⟩
    obtain ⟨front, rest, split⟩ := List.append_of_mem inside
    exact not_infix_of_cut? (List.cons_ne_nil a []) cut ⟨front, rest, by simp [split]⟩
  · rintro ⟨rfl, first⟩
    induction before with
    | nil => simp [cut?, stripStart?]
    | cons c before ih =>
      obtain ⟨other, later⟩ := not_or.1 (mt List.mem_cons.2 first)
      have notHere : stripStart? [a] (c :: (before ++ a :: behind)) = none := if_neg other
      rw [List.cons_append, cut?, notHere]
      simp only [ih later, Option.map_some]

/-! ## Joined texts -/

/-- Joined texts are joined again by the same character. -/
theorem join_append {m : Char} {front back : List Text} (some : front ≠ []) (more : back ≠ []) :
    join [m] (front ++ back) = join [m] front ++ m :: join [m] back := by
  obtain ⟨next, others, rfl⟩ := List.exists_cons_of_ne_nil more
  induction front with
  | nil => exact absurd rfl some
  | cons part rest ih =>
    cases rest with
    | nil => simp [join, List.intercalate_cons_cons]
    | cons second rest =>
      have later := ih (List.cons_ne_nil _ _)
      simp only [join, List.cons_append, List.intercalate_cons_cons] at later ⊢
      simp [later]

/-- Joined texts start like the first of them. -/
theorem head?_join {mark part : Text} (given : part ≠ []) (rest : List Text) :
    (join mark (part :: rest)).head? = part.head? := by
  obtain ⟨c, s, rfl⟩ := List.exists_cons_of_ne_nil given
  cases rest with
  | nil => rw [join, List.intercalate_singleton]
  | cons next others =>
    rw [join, List.intercalate_cons_cons, List.append_assoc]
    rfl

/-- Joined texts end like one of them. -/
theorem getLast?_join {mark : Text} {parts : List Text} (given : ∀ part ∈ parts, part ≠ [])
    {c : Char} (last : (join mark parts).getLast? = some c) :
    ∃ part ∈ parts, part.getLast? = some c := by
  induction parts with
  | nil => cases last
  | cons part rest ih =>
    cases rest with
    | nil =>
      rw [join, List.intercalate_singleton] at last
      exact ⟨part, List.mem_cons_self, last⟩
    | cons next others =>
      have later : join mark (next :: others) ≠ [] :=
        join_ne_nil (given next (List.mem_cons_of_mem _ List.mem_cons_self))
      have ends : (join mark (next :: others)).getLast? = some c := by
        rw [join, List.intercalate_cons_cons, List.getLast?_append, ← join,
          List.getLast?_eq_some_getLast later, Option.some_or] at last
        rw [List.getLast?_eq_some_getLast later, last]
      rcases ih (fun part member => given part (List.mem_cons_of_mem _ member)) ends with
        ⟨found, member, ends⟩
      exact ⟨found, List.mem_cons_of_mem _ member, ends⟩

/-! ## Marks in texts that are put together -/

/-- A mark stands in one of two texts, or its halves meet where they were joined. -/
theorem pair_infix_append_iff :
    [a, b] <:+: s ++ t ↔
      [a, b] <:+: s ∨ [a, b] <:+: t ∨ (s.getLast? = some a ∧ t.head? = some b) := by
  induction s with
  | nil => simp
  | cons c s ih =>
    rw [List.cons_append, List.infix_cons_iff, ih, List.infix_cons_iff, List.cons_prefix_cons,
      List.cons_prefix_cons]
    cases s with
    | nil =>
      have opens : [b] <+: t ↔ t.head? = some b := by
        cases t <;> simp [List.cons_prefix_cons, eq_comm]
      simp [opens, @eq_comm _ a c, or_comm]
    | cons d s =>
      -- The halves of the mark cannot meet at the end if the first stands at the start.
      rw [List.getLast?_cons_cons, List.cons_append, List.cons_prefix_cons, List.cons_prefix_cons]
      simp [or_assoc]

/-- Where the mark does not stand in either of two texts, it stands in both together only if it is
divided between them. -/
theorem not_pair_infix_append (front : ¬ [a, b] <:+: s) (back : ¬ [a, b] <:+: t)
    (apart : s.getLast? = some a → t.head? = some b → False) : ¬ [a, b] <:+: s ++ t := by
  rw [pair_infix_append_iff]
  rintro (inFront | inBack | ⟨ends, opens⟩)
  · exact front inFront
  · exact back inBack
  · exact apart ends opens

/-- A mark does not stand in a text without its first half. -/
theorem not_pair_infix_of_not_mem_left (absent : a ∉ s) : ¬ [a, b] <:+: s := fun here =>
  absent (here.subset List.mem_cons_self)

/-- A mark does not stand in a text without its second half. -/
theorem not_pair_infix_of_not_mem_right (absent : b ∉ s) : ¬ [a, b] <:+: s := fun here =>
  absent (here.subset (List.mem_cons_of_mem _ List.mem_cons_self))

/-- A mark does not stand in joined texts if it stands in none of them and cannot be divided between
one of them and the character that joins them. -/
theorem not_pair_infix_join {m : Char} {parts : List Text}
    (whole : ∀ part ∈ parts, part ≠ [] ∧ ¬ [a, b] <:+: part ∧
      (m = a → part.head? ≠ some b) ∧ (m = b → part.getLast? ≠ some a)) :
    ¬ [a, b] <:+: join [m] parts := by
  induction parts with
  | nil => simp [join]
  | cons part rest ih =>
    rcases whole part List.mem_cons_self with ⟨-, absent, -, ends⟩
    cases rest with
    | nil =>
      rw [join, List.intercalate_singleton]
      exact absent
    | cons next others =>
      rcases whole next (List.mem_cons_of_mem _ List.mem_cons_self) with ⟨given, -, opens, -⟩
      have later := ih fun part member => whole part (List.mem_cons_of_mem _ member)
      have behind : ¬ [a, b] <:+: [m] ++ join [m] (next :: others) := by
        refine not_pair_infix_append (by simp [List.infix_cons_iff]) later ?_
        intro last first
        rw [head?_join given others] at first
        exact opens (Option.some.inj last) first
      rw [join, List.intercalate_cons_cons, List.append_assoc, ← join]
      refine not_pair_infix_append absent behind fun last first => ?_
      exact ends (Option.some.inj first) last

end Text

end FrameText
