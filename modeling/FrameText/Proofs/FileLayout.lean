import FrameText.Definition
import FrameText.Proofs.Marks

/-!
# File layout — definition files as they are laid out by hand

A definition file leaves much to whoever writes it: where lines are broken, whether a slash stays in
front of a break, how lines are indented, and where comments stand.

1. `IsPhrase` says what a name or a layer may be.
2. `LaidLine`, `LaidDefinition` and `FileLayout` are the choices of a layout, and `FileLayout.text`
   is the file that comes out.
3. `IsRow` is the invariant of the reader: the definition that it is in has the layers so far, with
   or without a slash behind them (`isRow_push`, `gather_continuations`).
4. `FileLayout.parseFile_text` says that the definitions are read back from every layout.
-/

namespace FrameText

open Text

/-! ## Definitions -/

/-- Blanks within a line. -/
def IsGap (s : Text) : Prop :=
  ∀ c ∈ s, isBlank c = true ∧ c ≠ '\n'

/-- A text that can stand in a definition file as it is: a name, or layers. -/
structure IsPhrase (s : Text) : Prop where
  nonempty : s ≠ []
  trimmed : trim s = s
  unmarked : ¬ ":=".toList <:+: s
  uncommented : ¬ "//".toList <:+: s
  oneLine : '\n' ∉ s

/-- A single layer as it can stand in a definition file. -/
structure IsLayerPhrase (s : Text) : Prop extends IsPhrase s where
  slash : '/' ∉ s

/-- A comment behind a line, if there is one. -/
def commentText : Option Text → Text
  | none => []
  | some words => "//".toList ++ words

/-- Layers on one line, and what stands around them.  A line without layers is blank or holds only a
comment. -/
structure LaidLine where
  indent : Text
  layers : List Text
  /-- Whether the slash behind the last layer is kept. -/
  slash : Bool
  gap : Text
  comment : Option Text
  isGap_indent : IsGap indent
  isLayerPhrase : ∀ layer ∈ layers, IsLayerPhrase layer
  isGap_gap : IsGap gap
  oneLine : ∀ words ∈ comment, '\n' ∉ words

/-- The layers of a line, as far as they stand on it. -/
def LaidLine.row (line : LaidLine) : Text :=
  if line.layers = [] then [] else join ['/'] line.layers ++ if line.slash then ['/'] else []

/-- A line with a text in front of its layers. -/
def LaidLine.textBehind (line : LaidLine) (front : Text) : Text :=
  line.indent ++ front ++ line.row ++ line.gap ++ commentText line.comment

/-- A definition that is broken into lines, with blank lines and comments in between. -/
structure LaidDefinition where
  name : Option Text
  /-- Blanks around the mark between name and layers. -/
  before : Text
  behind : Text
  opening : LaidLine
  continuations : List LaidLine
  isPhrase_name : ∀ words ∈ name, IsPhrase words
  isGap_before : IsGap before
  isGap_behind : IsGap behind
  given : (opening :: continuations).flatMap LaidLine.layers ≠ []

namespace LaidDefinition

/-- The layers of a definition. -/
def layers (laid : LaidDefinition) : List Text :=
  (laid.opening :: laid.continuations).flatMap LaidLine.layers

/-- The definition that is meant. -/
def definition (laid : LaidDefinition) : Definition :=
  ⟨laid.name, join ['/'] laid.layers⟩

/-- The lines of a definition. -/
def lines (laid : LaidDefinition) : List Text :=
  laid.opening.textBehind (laid.name.getD [] ++ laid.before ++ ":=".toList ++ laid.behind) ::
    laid.continuations.map fun line => line.textBehind []

end LaidDefinition

/-- A line in front of the first definition, which defines nothing. -/
structure StrayLine where
  words : Text
  comment : Option Text
  unmarked : ¬ ":=".toList <:+: words
  oneLine : '\n' ∉ words
  oneLine_comment : ∀ words ∈ comment, '\n' ∉ words

/-- The text of a line in front of the first definition. -/
def StrayLine.text (line : StrayLine) : Text :=
  line.words ++ commentText line.comment

/-- A definition file as it is laid out. -/
structure FileLayout where
  strays : List StrayLine
  definitions : List LaidDefinition

/-- The file. -/
def FileLayout.text (layout : FileLayout) : Text :=
  join ['\n'] (layout.strays.map StrayLine.text ++ layout.definitions.flatMap LaidDefinition.lines)

/-- Whether a text holds the layers, joined by slashes, with or without a slash behind them. -/
def IsRow (layers : List Text) (s : Text) : Prop :=
  s = join ['/'] layers ∨ layers ≠ [] ∧ s = join ['/'] layers ++ ['/']

/-! ## Phrases -/

theorem IsGap.blank {s : Text} (gap : IsGap s) : ∀ c ∈ s, isBlank c = true :=
  fun c member => (gap c member).1

/-- A character that is not blank stands in no gap. -/
theorem IsGap.not_mem {s : Text} {c : Char} (gap : IsGap s) (solid : isBlank c = false) : c ∉ s := by
  intro member
  rw [gap.blank c member] at solid
  cases solid

theorem IsGap.newline_not_mem {s : Text} (gap : IsGap s) : '\n' ∉ s := fun member =>
  (gap _ member).2 rfl

theorem IsGap.append {s t : Text} (first : IsGap s) (second : IsGap t) : IsGap (s ++ t) :=
  fun c member => (List.mem_append.1 member).elim (first c) (second c)

/-- The ends of a phrase are not blank. -/
theorem IsPhrase.solid {s : Text} (phrase : IsPhrase s) :
    (∀ c, s.head? = some c → isBlank c = false) ∧ ∀ c, s.getLast? = some c → isBlank c = false := by
  rw [← phrase.trimmed]
  exact solid_trim s

/-- Layers that are joined by slashes are a phrase, and no slash stands at its ends. -/
theorem isPhrase_join {layers : List Text} (given : layers ≠ [])
    (phrases : ∀ layer ∈ layers, IsLayerPhrase layer) :
    IsPhrase (join ['/'] layers) ∧ (join ['/'] layers).head? ≠ some '/' ∧
      (join ['/'] layers).getLast? ≠ some '/' := by
  have nonempty : ∀ layer ∈ layers, layer ≠ [] := fun layer member => (phrases layer member).nonempty
  -- Both ends of the joined text are ends of layers.
  have first : ∀ c, (join ['/'] layers).head? = some c → isBlank c = false ∧ c ≠ '/' := by
    intro c head
    obtain ⟨layer, others, rfl⟩ := List.exists_cons_of_ne_nil given
    have phrase := phrases layer List.mem_cons_self
    rw [head?_join phrase.nonempty] at head
    refine ⟨phrase.solid.1 c head, ?_⟩
    rintro rfl
    exact phrase.slash (List.mem_of_mem_head? head)
  have last : ∀ c, (join ['/'] layers).getLast? = some c → isBlank c = false ∧ c ≠ '/' := by
    intro c tail
    rcases getLast?_join nonempty tail with ⟨layer, member, ends⟩
    have phrase := phrases layer member
    refine ⟨phrase.solid.2 c ends, ?_⟩
    rintro rfl
    exact phrase.slash (List.mem_of_getLast? ends)
  refine ⟨⟨?_, ?_, ?_, ?_, ?_⟩, fun head => (first _ head).2 rfl, fun tail => (last _ tail).2 rfl⟩
  · obtain ⟨layer, others, rfl⟩ := List.exists_cons_of_ne_nil given
    exact join_ne_nil (nonempty layer List.mem_cons_self)
  · exact trim_eq_self (fun c head => (first c head).1) (fun c tail => (last c tail).1)
  · refine not_pair_infix_join fun layer member => ?_
    have phrase := phrases layer member
    exact ⟨phrase.nonempty, phrase.unmarked, fun impossible => absurd impossible (by decide),
      fun impossible => absurd impossible (by decide)⟩
  · refine not_pair_infix_join fun layer member => ?_
    have phrase := phrases layer member
    exact ⟨phrase.nonempty, phrase.uncommented,
      fun _ head => phrase.slash (List.mem_of_mem_head? head),
      fun _ tail => phrase.slash (List.mem_of_getLast? tail)⟩
  · intro member
    rcases mem_join member with slash | ⟨layer, inside, here⟩
    · exact absurd slash (by decide)
    · exact (phrases layer inside).oneLine here

/-- Blanks in front of layers do not open a comment with them. -/
theorem layers_behind_gap {gap : Text} {layers : List Text} (isGap : IsGap gap)
    (given : layers ≠ []) (phrases : ∀ layer ∈ layers, IsLayerPhrase layer) :
    ¬ "//".toList <:+: gap ++ join ['/'] layers ∧
      ∀ c, (gap ++ join ['/'] layers).getLast? = some c → isBlank c = false ∧ c ≠ '/' := by
  rcases isPhrase_join given phrases with ⟨phrase, starts, ends⟩
  have slash : '/' ∉ gap := isGap.not_mem (by decide)
  refine ⟨not_pair_infix_append (not_pair_infix_of_not_mem_left slash) phrase.uncommented
    fun _ first => starts first, fun c last => ?_⟩
  rw [List.getLast?_append, List.getLast?_eq_some_getLast phrase.nonempty, Option.some_or,
    ← List.getLast?_eq_some_getLast] at last
  refine ⟨phrase.solid.2 c last, ?_⟩
  rintro rfl
  exact ends last

/-- What may be left of a row of layers is a row of layers. -/
theorem isRow_of_kept {layers : List Text} {kept s : Text} (given : layers ≠ [])
    (slash : kept = [] ∨ kept = ['/'])
    (left : s = join ['/'] layers ∨ s = join ['/'] layers ++ kept) : IsRow layers s := by
  rcases left with rfl | rfl
  · exact .inl rfl
  · rcases slash with rfl | rfl
    · exact .inl (List.append_nil _)
    · exact .inr ⟨given, rfl⟩

/-! ## Lines -/

section Lines

variable {indent body kept gap : Text} {comment : Option Text}

/-- A slash behind a trimmed text is no blank. -/
theorem trim_append_slash {s : Text} (trimmed : trim s = s) (slash : kept = [] ∨ kept = ['/']) :
    trim (s ++ kept) = s ++ kept := by
  have solid : isBlank '/' = false := by decide
  rcases slash with rfl | rfl
  · rw [List.append_nil, trimmed]
  · refine trim_eq_self (fun c first => ?_) (fun c last => ?_)
    · cases s with
      | nil =>
        cases first
        exact solid
      | cons d s => exact (trimmed ▸ solid_trim (d :: s)).1 c first
    · rw [List.getLast?_concat] at last
      cases last
      exact solid

/-- A line without a comment stays as it is. -/
theorem stripComment_eq_self {line : Text} (plain : ¬ "//".toList <:+: line) :
    stripComment line = line := by
  have absent : cut? "//".toList line = none := (cut?_eq_none_iff (by decide)).2 plain
  rw [stripComment, absent]

/-- A comment is taken off where the first two slashes stand. -/
theorem stripComment_append {line : Text} (first : ¬ "//".toList <:+: line ++ ['/'])
    (words : Text) : stripComment (line ++ '/' :: '/' :: words) = line := by
  have cut : cut? "//".toList (line ++ '/' :: '/' :: words) = some (line, words) :=
    cut?_of_first first words
  rw [stripComment, cut]

/-- What is left of a line are the words on it, but for a slash at their end that a comment directly
behind it takes away. -/
theorem trim_stripComment (isGap_indent : IsGap indent) (isGap_gap : IsGap gap)
    (trimmed : trim body = body) (uncommented : ¬ "//".toList <:+: body)
    (ends : body.getLast? ≠ some '/') (slash : kept = [] ∨ kept = ['/']) :
    trim (stripComment (indent ++ (body ++ kept) ++ gap ++ commentText comment)) = body ∨
      trim (stripComment (indent ++ (body ++ kept) ++ gap ++ commentText comment)) =
        body ++ kept := by
  have solid : isBlank '/' = false := by decide
  have noIndent : '/' ∉ indent := isGap_indent.not_mem solid
  have noGap : '/' ∉ gap := isGap_gap.not_mem solid
  have single : ¬ ['/', '/'] <:+: kept := by
    rcases slash with rfl | rfl <;> decide
  have front : ¬ ['/', '/'] <:+: indent ++ (body ++ kept) :=
    not_pair_infix_append (not_pair_infix_of_not_mem_left noIndent)
      (not_pair_infix_append uncommented single fun last _ => ends last)
      fun last _ => noIndent (List.mem_of_getLast? last)
  have plain : ¬ ['/', '/'] <:+: indent ++ (body ++ kept) ++ gap :=
    not_pair_infix_append front (not_pair_infix_of_not_mem_left noGap)
      fun _ first => noGap (List.mem_of_mem_head? first)
  -- Without the comment, blanks are all that stands around the words.
  have words : trim (indent ++ (body ++ kept) ++ gap) = body ++ kept := by
    rw [trim_around isGap_indent.blank isGap_gap.blank, trim_append_slash trimmed slash]
  cases comment with
  | none =>
    rw [commentText, List.append_nil, stripComment_eq_self plain]
    exact .inr words
  | some c =>
    show trim (stripComment (_ ++ '/' :: '/' :: c)) = _ ∨
      trim (stripComment (_ ++ '/' :: '/' :: c)) = _
    by_cases slashed : kept = ['/'] ∧ gap = []
    · -- The comment starts with the slash that was kept.
      obtain ⟨rfl, rfl⟩ := slashed
      left
      have shape : indent ++ (body ++ ['/']) ++ [] ++ '/' :: '/' :: c =
          indent ++ body ++ '/' :: '/' :: ('/' :: c) := by simp
      have first : ¬ "//".toList <:+: indent ++ body ++ ['/'] := by
        rw [List.append_assoc]
        exact front
      have alone := trim_around isGap_indent.blank isGap_gap.blank body
      rw [List.append_nil] at alone
      rw [shape, stripComment_append first, alone, trimmed]
    · right
      have apart : (indent ++ (body ++ kept) ++ gap).getLast? ≠ some '/' := by
        intro last
        rw [List.getLast?_append] at last
        rcases Option.or_eq_some_iff.1 last with inGap | ⟨nothing, inside⟩
        · exact noGap (List.mem_of_getLast? inGap)
        · rcases slash with rfl | rfl
          · rw [List.append_nil, List.getLast?_append] at inside
            rcases Option.or_eq_some_iff.1 inside with inBody | ⟨-, inIndent⟩
            · exact ends inBody
            · exact noIndent (List.mem_of_getLast? inIndent)
          · exact slashed ⟨rfl, List.getLast?_eq_none_iff.1 nothing⟩
      have first : ¬ "//".toList <:+: indent ++ (body ++ kept) ++ gap ++ ['/'] :=
        not_pair_infix_append plain (by decide) fun last _ => apart last
      rw [stripComment_append first, words]

/-- What a line says follows from what is left of it. -/
theorem ofText?_of_trim {line s : Text} (left : trim (stripComment line) = s) (given : s ≠ []) :
    DefinitionLine.ofText? line =
      match cut? ":=".toList s with
      | some (name, text) => some (.opening (nonBlank? name) (trim text))
      | none => some (.continuation s) := by
  subst left
  exact if_neg given

/-- A line that starts a definition: what stands in front of the mark is its name, what stands behind
it its first layers. -/
theorem ofText?_opening {label tail : Text} (isGap_indent : IsGap indent) (isGap_gap : IsGap gap)
    (opens : ∀ c, label.head? = some c → isBlank c = false)
    (unmarked : ¬ ":=".toList <:+: label) (uncommented : ¬ "//".toList <:+: label)
    (plain : ¬ "//".toList <:+: tail)
    (closes : ∀ c, tail.getLast? = some c → isBlank c = false ∧ c ≠ '/')
    (slash : kept = [] ∨ kept = ['/']) :
    ∃ s, (s = tail ∨ s = tail ++ kept) ∧
      DefinitionLine.ofText?
          (indent ++ (label ++ ":=".toList ++ tail ++ kept) ++ gap ++ commentText comment) =
        some (.opening (nonBlank? label) (trim s)) := by
  have last : ∀ c, (label ++ ":=".toList ++ tail).getLast? = some c →
      isBlank c = false ∧ c ≠ '/' := by
    intro c ends
    rw [List.getLast?_append] at ends
    rcases Option.or_eq_some_iff.1 ends with inTail | ⟨-, mark⟩
    · exact closes c inTail
    · have equals : '=' = c := by simpa using mark
      exact equals ▸ by decide
  have trimmed : trim (label ++ ":=".toList ++ tail) = label ++ ":=".toList ++ tail := by
    refine trim_eq_self (fun c first => ?_) (fun c ends => (last c ends).1)
    cases label with
    | nil =>
      cases first
      decide
    | cons d label => exact opens c first
  have mark : (label ++ ":=".toList).getLast? ≠ some '/' := by simp
  have noComment : ¬ "//".toList <:+: label ++ ":=".toList ++ tail :=
    not_pair_infix_append
      (not_pair_infix_append uncommented (by decide) fun _ first => absurd first (by decide)) plain
      fun ends _ => mark ends
  -- The first mark is the one behind the label.
  have cut : ∀ s, cut? ":=".toList (label ++ ":=".toList ++ s) = some (label, s) := by
    intro s
    rw [List.append_assoc]
    refine cut?_of_first (not_pair_infix_append unmarked (by decide) ?_) s
    exact fun _ first => absurd first (by decide)
  have given : ∀ s, label ++ ":=".toList ++ s ≠ [] := by simp
  rcases @trim_stripComment indent _ kept gap comment isGap_indent isGap_gap trimmed noComment
    (fun ends => (last _ ends).2 rfl) slash with left | left
  · exact ⟨tail, .inl rfl, by rw [ofText?_of_trim left (given _), cut]⟩
  · rw [List.append_assoc _ tail] at left
    refine ⟨tail ++ kept, .inr rfl, ?_⟩
    rw [List.append_assoc _ tail, ofText?_of_trim left (given _), cut]

end Lines

namespace LaidLine

/-- The slash that is kept behind the last layer of a line. -/
def keptSlash (line : LaidLine) : Text :=
  if line.slash then ['/'] else []

theorem keptSlash_cases (line : LaidLine) : line.keptSlash = [] ∨ line.keptSlash = ['/'] := by
  unfold keptSlash
  cases line.slash
  · exact .inl rfl
  · exact .inr rfl

/-- A blank line and a comment say nothing. -/
theorem ofText?_blank {line : LaidLine} (blank : line.layers = []) :
    DefinitionLine.ofText? (line.textBehind []) = none := by
  have nothing : trim (stripComment (line.textBehind [])) = [] := by
    rw [textBehind, row, if_pos blank]
    have left := @trim_stripComment line.indent [] [] line.gap line.comment line.isGap_indent
      line.isGap_gap rfl (by decide) (by simp) (.inl rfl)
    simpa using left
  simp only [DefinitionLine.ofText?, nothing, if_true]

/-- A line with layers goes on with the definition above. -/
theorem ofText?_continuation {line : LaidLine} (given : line.layers ≠ []) :
    ∃ s, IsRow line.layers s ∧
      DefinitionLine.ofText? (line.textBehind []) = some (.continuation s) := by
  rcases isPhrase_join given line.isLayerPhrase with ⟨phrase, -, ends⟩
  have shape : line.textBehind [] =
      line.indent ++ (join ['/'] line.layers ++ line.keptSlash) ++ line.gap ++
        commentText line.comment := by
    rw [textBehind, row, if_neg given, List.append_nil]
    rfl
  -- Neither the layers nor the slash behind them hold a mark.
  have unmarked : ¬ ":=".toList <:+: join ['/'] line.layers ++ line.keptSlash := by
    rcases line.keptSlash_cases with none | some
    · rw [none, List.append_nil]
      exact phrase.unmarked
    · rw [some]
      exact not_pair_infix_append phrase.unmarked (by decide) fun _ first => absurd first (by decide)
  have row : ∀ s, s = join ['/'] line.layers ∨ s = join ['/'] line.layers ++ line.keptSlash →
      IsRow line.layers s := fun s left => isRow_of_kept given line.keptSlash_cases left
  rcases @trim_stripComment line.indent _ line.keptSlash line.gap line.comment line.isGap_indent
    line.isGap_gap phrase.trimmed phrase.uncommented ends line.keptSlash_cases with left | left
  · refine ⟨_, row _ (.inl rfl), ?_⟩
    rw [shape, ofText?_of_trim left phrase.nonempty,
      (cut?_eq_none_iff (by decide)).2 phrase.unmarked]
  · refine ⟨_, row _ (.inr rfl), ?_⟩
    rw [shape, ofText?_of_trim left (by simp [phrase.nonempty]),
      (cut?_eq_none_iff (by decide)).2 unmarked]

end LaidLine

namespace LaidDefinition

/-- A name opens its line, or nothing does. -/
theorem exists_label (laid : LaidDefinition) :
    ∃ indent label, IsGap indent ∧ (∀ c, label.head? = some c → isBlank c = false) ∧
      ¬ ":=".toList <:+: label ∧ ¬ "//".toList <:+: label ∧ nonBlank? label = laid.name ∧
      ∀ s, laid.opening.indent ++ (laid.name.getD [] ++ laid.before ++ s) = indent ++ (label ++ s) := by
  have colon : ':' ∉ laid.before := laid.isGap_before.not_mem (by decide)
  have slash : '/' ∉ laid.before := laid.isGap_before.not_mem (by decide)
  have equals : '=' ∉ laid.before := laid.isGap_before.not_mem (by decide)
  cases named : laid.name with
  | none =>
    exact ⟨laid.opening.indent ++ laid.before, [], laid.opening.isGap_indent.append laid.isGap_before,
      by simp, by decide, by decide, rfl, by simp⟩
  | some words =>
    have phrase := laid.isPhrase_name words (by rw [named]; rfl)
    refine ⟨laid.opening.indent, words ++ laid.before, laid.opening.isGap_indent, ?_, ?_, ?_, ?_,
      fun _ => rfl⟩
    · intro c first
      -- The name is not empty, so that the line starts like the name.
      have head : words.head? = some c := by
        obtain ⟨d, others, rfl⟩ := List.exists_cons_of_ne_nil phrase.nonempty
        exact first
      exact phrase.solid.1 c head
    · exact not_pair_infix_append phrase.unmarked (not_pair_infix_of_not_mem_left colon)
        fun _ first => equals (List.mem_of_mem_head? first)
    · exact not_pair_infix_append phrase.uncommented (not_pair_infix_of_not_mem_left slash)
        fun _ first => slash (List.mem_of_mem_head? first)
    · have left : trim (words ++ laid.before) = words := by
        have around := @trim_around [] laid.before (by simp) laid.isGap_before.blank words
        rwa [List.nil_append, phrase.trimmed] at around
      rw [nonBlank?, left, if_neg phrase.nonempty]

/-- The line that a definition starts with is read as its name and the layers on it. -/
theorem ofText?_opening (laid : LaidDefinition) :
    ∃ s, IsRow laid.opening.layers s ∧
      DefinitionLine.ofText? (laid.opening.textBehind
        (laid.name.getD [] ++ laid.before ++ ":=".toList ++ laid.behind)) =
          some (.opening laid.name s) := by
  obtain ⟨indent, label, isGap, opens, unmarked, uncommented, name, front⟩ := laid.exists_label
  -- The line is the label, the mark and what stands behind it.
  have shape : laid.opening.textBehind
      (laid.name.getD [] ++ laid.before ++ ":=".toList ++ laid.behind) =
      indent ++ (label ++ (":=".toList ++ laid.behind)) ++ laid.opening.row ++ laid.opening.gap ++
        commentText laid.opening.comment := by
    rw [LaidLine.textBehind, List.append_assoc _ ":=".toList, front]
  rw [shape]
  by_cases given : laid.opening.layers = []
  · -- The line is broken directly behind the mark, so that only blanks follow.
    have gap : IsGap (laid.behind ++ laid.opening.gap) :=
      laid.isGap_behind.append laid.opening.isGap_gap
    obtain ⟨s, left, read⟩ := @FrameText.ofText?_opening indent [] _ laid.opening.comment
      label [] isGap gap opens unmarked uncommented (by decide) (by simp) (.inl rfl)
    obtain rfl : s = [] := by simpa using left
    refine ⟨[], .inl (by rw [given]; rfl), ?_⟩
    rw [LaidLine.row, if_pos given]
    have nothing : trim [] = [] := rfl
    simpa [name, nothing] using read
  · have phrase := (isPhrase_join given laid.opening.isLayerPhrase).1
    rcases layers_behind_gap laid.isGap_behind given laid.opening.isLayerPhrase with
      ⟨plain, closes⟩
    obtain ⟨s, left, read⟩ := @FrameText.ofText?_opening indent laid.opening.keptSlash
      laid.opening.gap laid.opening.comment label (laid.behind ++ join ['/'] laid.opening.layers)
      isGap laid.opening.isGap_gap opens unmarked uncommented plain closes
      laid.opening.keptSlash_cases
    have row : IsRow laid.opening.layers (trim s) := by
      refine isRow_of_kept given laid.opening.keptSlash_cases ?_
      have around := fun t => @trim_around laid.behind [] laid.isGap_behind.blank (by simp) t
      simp only [List.append_nil] at around
      rcases left with rfl | rfl
      · exact .inl (by rw [around, phrase.trimmed])
      · refine .inr ?_
        rw [List.append_assoc, around,
          trim_append_slash phrase.trimmed laid.opening.keptSlash_cases]
    refine ⟨trim s, row, ?_⟩
    rw [name] at read
    rw [← read, LaidLine.row, if_neg given, LaidLine.keptSlash]
    simp only [List.append_assoc]

end LaidDefinition

/-! ## The reader -/

theorem Definition.push_name (d : Definition) (line : Text) : (d.push line).name = d.name := by
  simp only [push]
  split
  · rfl
  · split <;> rfl

/-- A line of layers is put behind those that the definition already has. -/
theorem isRow_push {d : Definition} {front back : List Text} {line : Text}
    (phrasesFront : ∀ layer ∈ front, IsLayerPhrase layer)
    (phrasesBack : ∀ layer ∈ back, IsLayerPhrase layer) (before : IsRow front d.text)
    (behind : IsRow back line) : IsRow (front ++ back) (d.push line).text := by
  by_cases more : back = []
  · -- Without layers on it the line is empty.
    subst more
    obtain rfl : line = [] := behind.elim id fun impossible => absurd rfl impossible.1
    rwa [List.append_nil, Definition.push, if_pos rfl]
  · have given : line ≠ [] := by
      rcases behind with rfl | ⟨-, rfl⟩
      · exact (isPhrase_join more phrasesBack).1.nonempty
      · simp
    rw [Definition.push, if_neg given]
    by_cases none : front = []
    · subst none
      have text : d.text = [] := before.elim id fun impossible => absurd rfl impossible.1
      rw [if_pos (.inl text)]
      simpa [text] using behind
    · rcases isPhrase_join none phrasesFront with ⟨phrase, -, ends⟩
      -- One slash joins the lines, whether or not there was one behind the first.
      have joined : (if d.text = [] ∨ d.text.getLast? = some '/' then
          { d with text := d.text ++ line } else { d with text := d.text ++ '/' :: line }).text =
            join ['/'] front ++ '/' :: line := by
        rcases before with text | ⟨-, text⟩
        · rw [text, if_neg fun either => either.elim phrase.nonempty ends]
        · rw [text, if_pos (.inr List.getLast?_concat), List.append_assoc]
          rfl
      rw [joined]
      rcases behind with rfl | ⟨-, rfl⟩
      · exact .inl (join_append none more).symm
      · refine .inr ⟨fun empty => none (List.append_eq_nil_iff.1 empty).1, ?_⟩
        rw [join_append none more, List.append_assoc, List.cons_append]

/-- A text that does not end in a slash loses none. -/
theorem dropWhile_slash {s : Text} (ends : s.getLast? ≠ some '/') :
    s.reverse.dropWhile (· == '/') = s.reverse := by
  rw [← List.head?_reverse] at ends
  cases reversed : s.reverse with
  | nil => rfl
  | cons c others =>
    rw [reversed] at ends
    have other : ¬ (c == '/') = true := fun equal => ends (eq_of_beq equal ▸ rfl)
    exact List.dropWhile_cons_of_neg other

/-- A definition is finished without the slash that may stand behind its layers. -/
theorem finish_of_isRow {d : Definition} {layers : List Text} (given : layers ≠ [])
    (phrases : ∀ layer ∈ layers, IsLayerPhrase layer) (row : IsRow layers d.text) :
    d.finish = (some ⟨d.name, join ['/'] layers⟩, []) := by
  rcases isPhrase_join given phrases with ⟨phrase, -, ends⟩
  have kept := dropWhile_slash ends
  have left : (d.text.reverse.dropWhile (· == '/')).reverse = join ['/'] layers := by
    rcases row with text | ⟨-, text⟩
    · rw [text, kept, List.reverse_reverse]
    · rw [text, List.reverse_append, List.reverse_singleton, List.singleton_append,
        List.dropWhile_cons, if_pos (by decide), kept, List.reverse_reverse]
  simp only [Definition.finish, left, if_neg phrase.nonempty]

/-- The lines that follow are taken up into the definition, and those that say nothing are passed
over. -/
theorem gather_continuations {lines : List LaidLine} {front : List Text} {current : Definition}
    (phrases : ∀ layer ∈ front, IsLayerPhrase layer) (row : IsRow front current.text)
    (rest : List DefinitionLine) :
    ∃ later : Definition, later.name = current.name ∧
      IsRow (front ++ lines.flatMap LaidLine.layers) later.text ∧
      Definition.gather (some current)
          ((lines.map fun line => line.textBehind []).filterMap DefinitionLine.ofText? ++ rest) =
        Definition.gather (some later) rest := by
  -- The invariant is over the layers in front, which grow with every line.
  induction lines generalizing front current with
  | nil => exact ⟨current, rfl, by simpa using row, rfl⟩
  | cons line lines ih =>
    rw [List.flatMap_cons, List.map_cons]
    by_cases given : line.layers = []
    · rw [List.filterMap_cons_none (LaidLine.ofText?_blank given), given]
      exact ih phrases row
    · obtain ⟨s, back, read⟩ := LaidLine.ofText?_continuation given
      have both : ∀ layer ∈ front ++ line.layers, IsLayerPhrase layer := by
        intro layer member
        rcases List.mem_append.1 member with inFront | inBack
        · exact phrases layer inFront
        · exact line.isLayerPhrase layer inBack
      obtain ⟨later, name, whole, gathered⟩ :=
        ih both (isRow_push phrases line.isLayerPhrase row back)
      refine ⟨later, name.trans (current.push_name s), by rwa [← List.append_assoc], ?_⟩
      rw [List.filterMap_cons_some read, List.cons_append, ← gathered]
      rfl

namespace LaidDefinition

theorem isLayerPhrase (laid : LaidDefinition) :
    ∀ layer ∈ laid.layers, IsLayerPhrase layer := by
  intro layer member
  obtain ⟨line, -, inside⟩ := List.mem_flatMap.1 member
  exact line.isLayerPhrase layer inside

/-- Behind the lines of a definition the reader is in that definition, and has finished the one
above. -/
theorem exists_gathered (laid : LaidDefinition) (rest : List DefinitionLine) :
    ∃ later : Definition, later.name = laid.name ∧ IsRow laid.layers later.text ∧
      Definition.gather none (laid.lines.filterMap DefinitionLine.ofText? ++ rest) =
        Definition.gather (some later) rest ∧
      ∀ current, (Definition.gather (some current)
          (laid.lines.filterMap DefinitionLine.ofText? ++ rest)).1 =
        current.finish.1.toList ++ (Definition.gather (some later) rest).1 := by
  obtain ⟨s, first, read⟩ := laid.ofText?_opening
  have row : IsRow laid.opening.layers (Definition.push ⟨laid.name, []⟩ s).text :=
    @isRow_push ⟨laid.name, []⟩ [] _ _ (by simp) laid.opening.isLayerPhrase (.inl rfl) first
  obtain ⟨later, name, whole, gathered⟩ :=
    @gather_continuations laid.continuations _ _ laid.opening.isLayerPhrase row rest
  rw [lines, List.filterMap_cons_some read, List.cons_append]
  refine ⟨later, name.trans (Definition.push_name _ s), whole, gathered, fun current => ?_⟩
  exact congrArg (fun later => current.finish.1.toList ++ later.1) gathered

end LaidDefinition

/-- From within a definition the reader finds that definition and those that follow. -/
theorem gather_definitions {laids : List LaidDefinition} {layers : List Text}
    {current : Definition} (given : layers ≠ []) (phrases : ∀ layer ∈ layers, IsLayerPhrase layer)
    (row : IsRow layers current.text) :
    (Definition.gather (some current)
        ((laids.flatMap LaidDefinition.lines).filterMap DefinitionLine.ofText?)).1 =
      ⟨current.name, join ['/'] layers⟩ :: laids.map LaidDefinition.definition := by
  have finished := finish_of_isRow given phrases row
  -- A definition is finished by the line that starts the next one, or by the end of the file.
  induction laids generalizing layers current with
  | nil => simp [Definition.gather, finished]
  | cons laid laids ih =>
    rw [List.flatMap_cons, List.filterMap_append]
    obtain ⟨later, name, behind, -, gathered⟩ := laid.exists_gathered
      ((laids.flatMap LaidDefinition.lines).filterMap DefinitionLine.ofText?)
    rw [gathered, finished, ih laid.given laid.isLayerPhrase behind
      (finish_of_isRow laid.given laid.isLayerPhrase behind), name]
    rfl

/-! ## Lines in front of the first definition -/

theorem stripComment_isPrefix (line : Text) : stripComment line <+: line := by
  unfold stripComment
  cases cut : cut? "//".toList line with
  | none => exact List.prefix_rfl
  | some parts =>
    rw [eq_of_cut?_eq_some cut, List.append_assoc]
    exact List.prefix_append _ _

/-- A line in front of the first definition starts none. -/
theorem StrayLine.ofText?_text (line : StrayLine) :
    DefinitionLine.ofText? line.text = none ∨
      ∃ s, DefinitionLine.ofText? line.text = some (.continuation s) := by
  have front : stripComment line.text <+: line.words := by
    unfold text
    cases line.comment with
    | none =>
      rw [commentText, List.append_nil]
      exact stripComment_isPrefix line.words
    | some words =>
      obtain ⟨before, behind, cut, inside⟩ :=
        @cut?_append_mark "//".toList (by decide) line.words words
      rw [commentText, ← List.append_assoc, stripComment, cut]
      exact inside
  -- No mark is left, as there is none in the words.
  have unmarked : ¬ ":=".toList <:+: trim (stripComment line.text) := fun here =>
    line.unmarked (here.trans ((trim_isInfix _).trans front.isInfix))
  by_cases given : trim (stripComment line.text) = []
  · left
    simp only [DefinitionLine.ofText?, given, if_true]
  · right
    refine ⟨trim (stripComment line.text), ?_⟩
    rw [ofText?_of_trim rfl given, (cut?_eq_none_iff (by decide)).2 unmarked]

/-- Lines in front of the first definition belong to none. -/
theorem gather_strays (strays : List StrayLine) (rest : List DefinitionLine) :
    (Definition.gather none
        ((strays.map StrayLine.text).filterMap DefinitionLine.ofText? ++ rest)).1 =
      (Definition.gather none rest).1 := by
  induction strays with
  | nil => rfl
  | cons line strays ih =>
    rw [List.map_cons]
    rcases line.ofText?_text with nothing | ⟨s, read⟩
    · rw [List.filterMap_cons_none nothing, ih]
    · rw [List.filterMap_cons_some read, List.cons_append, Definition.gather]
      exact ih

/-! ## Files -/

theorem LaidLine.newline_not_mem_textBehind {line : LaidLine} {front : Text}
    (oneLine : '\n' ∉ front) : '\n' ∉ line.textBehind front := by
  have inRow : '\n' ∉ line.row := by
    unfold row
    split
    · exact List.not_mem_nil
    · rename_i given
      rw [List.mem_append, not_or]
      refine ⟨(isPhrase_join given line.isLayerPhrase).1.oneLine, ?_⟩
      cases line.slash <;> decide
  have inComment : '\n' ∉ commentText line.comment := by
    cases comment : line.comment with
    | none => exact List.not_mem_nil
    | some words => simpa [commentText] using line.oneLine words comment
  simp [textBehind, line.isGap_indent.newline_not_mem, oneLine, inRow,
    line.isGap_gap.newline_not_mem, inComment]

theorem LaidDefinition.newline_not_mem {laid : LaidDefinition} :
    ∀ line ∈ laid.lines, '\n' ∉ line := by
  have inName : '\n' ∉ laid.name.getD [] := by
    cases name : laid.name with
    | none => exact List.not_mem_nil
    | some words => exact (laid.isPhrase_name words name).oneLine
  intro line member
  rcases List.mem_cons.1 member with rfl | later
  · refine LaidLine.newline_not_mem_textBehind ?_
    simp [inName, laid.isGap_before.newline_not_mem, laid.isGap_behind.newline_not_mem]
  · obtain ⟨line, -, rfl⟩ := List.mem_map.1 later
    exact LaidLine.newline_not_mem_textBehind List.not_mem_nil

theorem StrayLine.newline_not_mem_text (line : StrayLine) : '\n' ∉ line.text := by
  unfold text
  cases comment : line.comment with
  | none => simpa [commentText] using line.oneLine
  | some words =>
    simpa [commentText] using And.intro line.oneLine (line.oneLine_comment words comment)

/-- The lines of a file are those that it was put together from. -/
theorem definitionLines_join {lines : List Text} (whole : ∀ line ∈ lines, '\n' ∉ line) :
    definitionLines (join ['\n'] lines) = lines.filterMap DefinitionLine.ofText? := by
  by_cases given : lines = []
  · subst given
    rfl
  · rw [definitionLines, join, List.splitOn_intercalate '\n' whole given]

/-- A file with a single definition is read without complaint. -/
theorem LaidDefinition.parseFile_lines (laid : LaidDefinition) :
    Definition.parseFile (join ['\n'] laid.lines) = ([laid.definition], []) := by
  obtain ⟨later, name, row, gathered, -⟩ := laid.exists_gathered []
  rw [List.append_nil] at gathered
  rw [Definition.parseFile, definitionLines_join laid.newline_not_mem, gathered, Definition.gather,
    finish_of_isRow laid.given laid.isLayerPhrase row, name]
  rfl

/-- Whatever the layout of a definition file, exactly the definitions in it are read, one by one and
with single slashes between their layers. -/
theorem FileLayout.parseFile_text (layout : FileLayout) :
    (Definition.parseFile layout.text).1 = layout.definitions.map LaidDefinition.definition := by
  have whole : ∀ line ∈ layout.strays.map StrayLine.text ++
      layout.definitions.flatMap LaidDefinition.lines, '\n' ∉ line := by
    intro line member
    rcases List.mem_append.1 member with stray | laid
    · obtain ⟨line, -, rfl⟩ := List.mem_map.1 stray
      exact line.newline_not_mem_text
    · obtain ⟨laid, -, inside⟩ := List.mem_flatMap.1 laid
      exact laid.newline_not_mem line inside
  rw [Definition.parseFile, text, definitionLines_join whole, List.filterMap_append, gather_strays]
  -- Only the first definition has none above it that its line would finish.
  cases layout.definitions with
  | nil => rfl
  | cons laid laids =>
    rw [List.flatMap_cons, List.filterMap_append]
    obtain ⟨later, name, behind, gathered, -⟩ := laid.exists_gathered
      ((laids.flatMap LaidDefinition.lines).filterMap DefinitionLine.ofText?)
    rw [gathered, gather_definitions laid.given laid.isLayerPhrase behind, name]
    rfl

-- A slash directly in front of a comment becomes part of it.
example : Definition.parseFile "a := x/// first\n\n  y/ // second\n:= z/".toList =
    ([⟨some "a".toList, "x/y".toList⟩, ⟨none, "z".toList⟩], []) := by decide

end FrameText
