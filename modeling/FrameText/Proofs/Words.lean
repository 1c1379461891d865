import FrameText.Layer.Key
import FrameText.Proofs.Results
import FrameText.Token

/-!
# Words — text that nothing takes apart

Descriptions are taken apart at slashes, commas, blanks and equals signs.

1. `IsWord` describes an ASCII text without any of these characters; keys and printed values are
   words.
2. `splitOnP_join` takes joined texts apart again.
3. `assignments_join` finds the keys and values of parameters that are written one behind the other.
-/

namespace FrameText

/-! ## Trimming -/

namespace Text

/-- Text without blanks does not change. -/
theorem trim_of_forall {s : Text} (solid : ∀ c ∈ s, isBlank c = false) : trim s = s :=
  trim_eq_self (fun c first => solid c (List.mem_of_mem_head? first))
    (fun c last => solid c (List.mem_of_getLast? last))

/-- Text between two characters that are not blank does not change. -/
theorem trim_between {first last : Char} (opens : isBlank first = false)
    (closes : isBlank last = false) (s : Text) :
    trim (first :: s ++ [last]) = first :: s ++ [last] := by
  apply trim_eq_self
  · intro c head
    cases head
    exact opens
  · intro c tail
    rw [List.getLast?_concat] at tail
    cases tail
    exact closes

theorem trim_isPrefix (s : Text) : trim s <+: trimStart s := by
  simpa [trim, trimEnd] using
    List.reverse_prefix.2 (List.dropWhile_suffix (l := (trimStart s).reverse) isBlank)

/-- Trimming takes away from the ends only. -/
theorem trim_isInfix (s : Text) : trim s <:+: s :=
  (trim_isPrefix s).isInfix.trans (List.dropWhile_suffix isBlank).isInfix

/-- The ends of a trimmed text are not blank. -/
theorem solid_trim (s : Text) :
    (∀ c, (trim s).head? = some c → isBlank c = false) ∧
      ∀ c, (trim s).getLast? = some c → isBlank c = false := by
  constructor
  · intro c first
    -- What is left starts like the text behind the blanks in front.
    obtain ⟨rest, whole⟩ := trim_isPrefix s
    have head : (s.dropWhile isBlank).head? = some c := by
      change (trimStart s).head? = some c
      rw [← whole, List.head?_append, first]
      rfl
    simpa [head] using List.head?_dropWhile_not isBlank s
  · intro c last
    have head : ((trimStart s).reverse.dropWhile isBlank).head? = some c := by
      simpa [trim, trimEnd] using last
    simpa [head] using List.head?_dropWhile_not isBlank (trimStart s).reverse

/-- Trimming again changes nothing. -/
theorem trim_trim (s : Text) : trim (trim s) = trim s :=
  trim_eq_self (solid_trim s).1 (solid_trim s).2

/-- Nothing but blanks is trimmed away. -/
theorem exists_around (s : Text) :
    ∃ front back, s = front ++ trim s ++ back ∧ (∀ c ∈ front, isBlank c = true) ∧
      ∀ c ∈ back, isBlank c = true := by
  let start := trimStart s
  have opened : s.takeWhile isBlank ++ start = s := List.takeWhile_append_dropWhile
  have closed : (start.reverse.takeWhile isBlank ++ start.reverse.dropWhile isBlank).reverse =
      start := by
    rw [List.takeWhile_append_dropWhile, List.reverse_reverse]
  refine ⟨s.takeWhile isBlank, (start.reverse.takeWhile isBlank).reverse, ?_,
    List.all_eq_true.1 List.all_takeWhile, fun c member => ?_⟩
  · rw [List.reverse_append] at closed
    rw [List.append_assoc, trim, trimEnd, closed, opened]
  · exact List.all_eq_true.1 List.all_takeWhile c (List.mem_reverse.1 member)

/-- Blanks around a text do not count. -/
theorem trim_around {front back : Text} (blankFront : ∀ c ∈ front, isBlank c = true)
    (blankBack : ∀ c ∈ back, isBlank c = true) (s : Text) :
    trim (front ++ s ++ back) = trim s := by
  have ended : ∀ t, trimEnd (t ++ back) = trimEnd t := by
    intro t
    rw [trimEnd, List.reverse_append, List.dropWhile_append_of_pos
      fun c member => blankBack c (List.mem_reverse.1 member), trimEnd]
  rw [trim, trimStart, List.append_assoc, List.dropWhile_append_of_pos blankFront,
    List.dropWhile_append, trim, trimStart]
  split
  · rename_i nothing
    -- A blank text leaves nothing, whatever stands around it.
    have gone : back.dropWhile isBlank = [] := by
      simpa using @List.dropWhile_append_of_pos _ isBlank back [] blankBack
    rw [gone, List.isEmpty_iff.1 nothing]
  · exact ended _

/-! ## Splitting -/

/-- Joined texts are split where they were joined. -/
theorem splitOnP_join {splits : Char → Bool} {mark : Char} (marked : splits mark = true)
    {parts : List Text} (nonempty : parts ≠ [])
    (whole : ∀ part ∈ parts, ∀ c ∈ part, splits c = false) :
    (join [mark] parts).splitOnP splits = parts := by
  induction parts with
  | nil => exact absurd rfl nonempty
  | cons part rest ih =>
    have first := whole part List.mem_cons_self
    cases rest with
    | nil =>
      rw [join, List.intercalate_singleton]
      exact List.splitOnP_eq_singleton first
    | cons next others =>
      have later := ih (List.cons_ne_nil _ _)
        (fun part member => whole part (List.mem_cons_of_mem _ member))
      rw [join, List.intercalate_cons_cons, List.append_assoc, List.singleton_append,
        List.splitOnP_append_cons_of_forall_mem first mark marked]
      exact congrArg (part :: ·) later

/-- A character of joined texts comes from a mark or from a text. -/
theorem mem_join {mark : Text} {parts : List Text} {c : Char} (member : c ∈ join mark parts) :
    c ∈ mark ∨ ∃ part ∈ parts, c ∈ part := by
  induction parts with
  | nil => cases member
  | cons part rest ih =>
    cases rest with
    | nil =>
      rw [join, List.intercalate_singleton] at member
      exact .inr ⟨part, List.mem_cons_self, member⟩
    | cons next others =>
      rw [join, List.intercalate_cons_cons, List.append_assoc, List.mem_append,
        List.mem_append] at member
      rcases member with first | between | later
      · exact .inr ⟨part, List.mem_cons_self, first⟩
      · exact .inl between
      · rcases ih later with between | ⟨found, inside, here⟩
        · exact .inl between
        · exact .inr ⟨found, List.mem_cons_of_mem _ inside, here⟩

theorem join_ne_nil {mark part : Text} {rest : List Text} (first : part ≠ []) :
    join mark (part :: rest) ≠ [] := by
  cases rest with
  | nil =>
    rw [join, List.intercalate_singleton]
    exact first
  | cons next others =>
    rw [join, List.intercalate_cons_cons, List.append_assoc]
    exact fun empty => first (List.append_eq_nil_iff.1 empty).1

theorem filter_nonempty {parts : List Text} (nonempty : ∀ part ∈ parts, part ≠ []) :
    parts.filter (!·.isEmpty) = parts := by
  apply List.filter_eq_self.2
  intro part member
  cases part with
  | nil => exact absurd rfl (nonempty [] member)
  | cons c s => rfl

/-! ## Single bytes -/

/-- Whether every character of a text is a single byte. -/
def IsAscii (s : Text) : Prop :=
  ∀ c ∈ s, c.utf8Size = 1

instance (s : Text) : Decidable (IsAscii s) :=
  List.decidableBAll (fun c : Char => c.utf8Size = 1) s

theorem IsAscii.byteLength {s : Text} (ascii : IsAscii s) : byteLength s = s.length := by
  induction s with
  | nil => rfl
  | cons c s ih =>
    rw [byteLength_cons, ascii c List.mem_cons_self,
      ih (fun c member => ascii c (List.mem_cons_of_mem _ member)), List.length_cons, Nat.add_comm]

theorem IsAscii.append {s t : Text} (first : IsAscii s) (second : IsAscii t) : IsAscii (s ++ t) :=
  fun c member => (List.mem_append.1 member).elim (first c) (second c)

theorem IsAscii.join {mark : Text} {parts : List Text} (marks : IsAscii mark)
    (ascii : ∀ part ∈ parts, IsAscii part) : IsAscii (join mark parts) := by
  intro c member
  rcases mem_join member with between | ⟨part, inside, here⟩
  · exact marks c between
  · exact ascii part inside c here

end Text

open Text

/-! ## Words -/

/-- Whether a character is a single byte of text and takes no description apart. -/
def isWordChar (c : Char) : Bool :=
  c != '/' && c != '=' && !separatesParams c && c.utf8Size == 1

/-- An ASCII text that is not empty and that nothing takes apart. -/
def IsWord (s : Text) : Prop :=
  s ≠ [] ∧ ∀ c ∈ s, isWordChar c = true

instance (s : Text) : Decidable (IsWord s) :=
  @instDecidableAnd _ _ _ (List.decidableBAll (fun c => isWordChar c = true) s)

theorem isWordChar_iff {c : Char} :
    isWordChar c = true ↔
      c ≠ '/' ∧ c ≠ '=' ∧ separatesParams c = false ∧ c.utf8Size = 1 := by
  simp [isWordChar, and_assoc]

namespace IsWord

variable {s t : Text}

theorem append (first : IsWord s) (second : IsWord t) : IsWord (s ++ t) := by
  refine ⟨fun empty => first.1 (List.append_eq_nil_iff.1 empty).1, fun c member => ?_⟩
  rcases List.mem_append.1 member with inFirst | inSecond
  · exact first.2 c inFirst
  · exact second.2 c inSecond

/-- Words with word characters between them are a word. -/
theorem join {mark : Text} {parts : List Text} (nonempty : parts ≠ [])
    (marks : mark.all isWordChar = true) (words : ∀ part ∈ parts, IsWord part) :
    IsWord (join mark parts) := by
  constructor
  · cases parts with
    | nil => exact absurd rfl nonempty
    | cons part rest => exact join_ne_nil (words part List.mem_cons_self).1
  · intro c member
    rcases mem_join member with between | ⟨part, inside, here⟩
    · exact List.all_eq_true.1 marks c between
    · exact (words part inside).2 c here

theorem isBlank_eq_false (word : IsWord s) : ∀ c ∈ s, isBlank c = false := by
  intro c member
  have solid := (isWordChar_iff.1 (word.2 c member)).2.2.1
  exact (Bool.or_eq_false_iff.1 solid).2

theorem trim (word : IsWord s) : trim s = s :=
  trim_of_forall word.isBlank_eq_false

theorem isAscii (word : IsWord s) : IsAscii s := fun c member =>
  (isWordChar_iff.1 (word.2 c member)).2.2.2

end IsWord

theorem isWord_keyName (key : Key) : IsWord key.name := by
  cases key <;> decide

/-! ## Parameters -/

theorem stripParens_between (body : Text) :
    stripParens ('(' :: body ++ [')']) = trim body := by
  rw [stripParens, trim_between (by decide) (by decide)]
  -- Only the outer pair of parentheses is taken off.
  have opened : stripStart? ['('] ('(' :: body ++ [')']) = some (body ++ [')']) :=
    stripStart?_eq_some_iff.2 rfl
  have closed : stripEnd? [')'] (body ++ [')']) = some body := stripEnd?_eq_some_iff.2 rfl
  simp only [opened, Option.getD_some, closed]

theorem splitPair_eq {key value : Text} (keyWord : IsWord key) (valueWord : IsWord value) :
    splitPair (key ++ '=' :: value) = .ok (key, value) := by
  -- The only equals sign is the one between them.
  have inKey : '=' ∉ key := fun member => (isWordChar_iff.1 (keyWord.2 _ member)).2.1 rfl
  have inValue : '=' ∉ value := fun member => (isWordChar_iff.1 (valueWord.2 _ member)).2.1 rfl
  have parts : (key ++ '=' :: value).splitOn '=' = [key, value] := by
    rw [List.splitOn_append_cons_self_of_not_mem inKey, List.splitOn_eq_singleton inValue]
  rw [splitPair, parts, List.map_cons, List.map_cons, List.map_nil, keyWord.trim, valueWord.trim]
  exact if_neg (fun empty => empty.elim keyWord.1 valueWord.1)

/-- Parameters between parentheses are split where they were joined. -/
theorem splitParams_join {params : List Text} (nonempty : params ≠ [])
    (whole : ∀ param ∈ params, param ≠ [] ∧ ∀ c ∈ param, separatesParams c = false)
    (few : params.length ≤ 16) :
    splitParams ('(' :: join [','] params ++ [')']) Limits.maxParams = .ok params := by
  -- A blank separates parameters too, so that none stands at either end of them.
  have solid : ∀ c ∈ join [','] params, isBlank c = false := by
    intro c member
    rcases mem_join member with between | ⟨param, inside, here⟩
    · rw [List.mem_singleton.1 between]
      decide
    · exact (Bool.or_eq_false_iff.1 ((whole param inside).2 c here)).2
  have length : ¬ Limits.maxParams < params.length := Nat.not_lt_of_le few
  simp only [splitParams, stripParens_between, trim_of_forall solid]
  rw [splitOnP_join (by decide) nonempty (fun param member => (whole param member).2),
    filter_nonempty (fun param member => (whole param member).1), if_neg length]

theorem mapM_splitPair {pairs : List (Text × Text)}
    (words : ∀ pair ∈ pairs, IsWord pair.1 ∧ IsWord pair.2) :
    (pairs.map fun pair => pair.1 ++ '=' :: pair.2).mapM splitPair = .ok pairs := by
  induction pairs with
  | nil => rfl
  | cons pair rest ih =>
    rcases words pair List.mem_cons_self with ⟨key, value⟩
    exact mapM_cons_eq_ok.2 ⟨pair, rest, splitPair_eq key value,
      ih (fun pair member => words pair (List.mem_cons_of_mem _ member)), rfl⟩

/-- Parameters are taken apart into the keys and values that they were written from. -/
theorem assignments_join {pairs : List (Text × Text)} (given : pairs ≠ []) (few : pairs.length ≤ 16)
    (words : ∀ pair ∈ pairs, IsWord pair.1 ∧ IsWord pair.2) :
    assignments ('(' :: join [','] (pairs.map fun pair => pair.1 ++ '=' :: pair.2) ++ [')']) =
      .ok pairs := by
  have split := @splitParams_join (pairs.map fun pair => pair.1 ++ '=' :: pair.2)
    (fun empty => given (List.map_eq_nil_iff.1 empty)) (by
      intro param member
      rcases List.mem_map.1 member with ⟨pair, inside, rfl⟩
      rcases words pair inside with ⟨key, value⟩
      refine ⟨fun empty => List.cons_ne_nil _ _ (List.append_eq_nil_iff.1 empty).2, ?_⟩
      intro c here
      rcases List.mem_append.1 here with inKey | inRest
      · exact (isWordChar_iff.1 (key.2 c inKey)).2.2.1
      · rcases List.mem_cons.1 inRest with rfl | inValue
        · decide
        · exact (isWordChar_iff.1 (value.2 c inValue)).2.2.1)
    (by rw [List.length_map]; exact few)
  exact bind_eq_ok.2 ⟨_, split, mapM_splitPair words⟩

end FrameText
