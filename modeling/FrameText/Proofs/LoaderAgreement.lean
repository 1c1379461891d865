import FrameText.Proofs.BulkLoads
import FrameText.Proofs.FileLayout
import Mathlib.Control.Monad.Basic

/-!
# Loader agreement — definition strings on the lines of a file

A list of definition strings is cut string by string.  A definition file is cut into lines, which
lose their comments, gather the lines below them and the slashes at their ends.  Where every string
is a whole definition, none of this makes a difference.

1. `IsWholeDefinition` describes such strings, and `IsWholeDefinition.read` says that both readers
   find the same name and the same layers in them.
2. `Definition.gather_whole` says that lines which all start a definition are taken as they are.
3. `Store.loadText_join` says that both loaders have the same answer and leave the same store.
-/

namespace FrameText

open Text

/-! ## Definition strings -/

/-- Whether a string is a definition that no other line belongs to: a name, a mark, and layers that
do not end in a slash, on one line and without a comment. -/
structure IsWholeDefinition (s : Text) : Prop where
  defines : ∃ name text, cut? ":=".toList s = some (name, text) ∧ trim name ≠ [] ∧
    trim text ≠ [] ∧ (trim text).getLast? ≠ some '/'
  uncommented : ¬ "//".toList <:+: s
  oneLine : '\n' ∉ s

/-- A line without a comment is read with its name and its layers trimmed. -/
theorem ofText?_of_cut {s name text : Text} (cut : cut? ":=".toList s = some (name, text))
    (named : trim name ≠ []) (given : trim text ≠ []) (uncommented : ¬ "//".toList <:+: s) :
    DefinitionLine.ofText? s = some (.opening (some (trim name)) (trim text)) := by
  obtain ⟨indent, before, nameAround, indentBlank, beforeBlank⟩ := exists_around name
  obtain ⟨behind, gap, textAround, behindBlank, gapBlank⟩ := exists_around text
  -- Trimming the line takes away what stands in front of the name and behind the layers.
  have shape : s =
      indent ++ (trim name ++ before ++ ":=".toList ++ (behind ++ trim text)) ++ gap := by
    calc
      s = name ++ ":=".toList ++ text := eq_of_cut?_eq_some cut
      _ = (indent ++ trim name ++ before) ++ ":=".toList ++ (behind ++ trim text ++ gap) := by
        rw [← nameAround, ← textAround]
      _ = _ := by simp only [List.append_assoc]
  have opens : ∀ c, (trim name ++ before ++ ":=".toList ++ (behind ++ trim text)).head? = some c →
      isBlank c = false := by
    intro c first
    obtain ⟨d, others, start⟩ := List.exists_cons_of_ne_nil named
    refine (solid_trim name).1 c ?_
    rw [start] at first ⊢
    exact first
  have closes : ∀ c, (trim name ++ before ++ ":=".toList ++ (behind ++ trim text)).getLast? =
      some c → isBlank c = false := by
    intro c last
    refine (solid_trim text).2 c ?_
    rw [← List.append_assoc, List.getLast?_append, List.getLast?_eq_some_getLast given,
      Option.some_or] at last
    rw [List.getLast?_eq_some_getLast given, last]
  have left : trim (stripComment s) =
      trim name ++ before ++ ":=".toList ++ (behind ++ trim text) := by
    rw [stripComment_eq_self uncommented, shape, trim_around indentBlank gapBlank,
      trim_eq_self opens closes]
  -- The mark is still the first one.
  have label : trim name ++ before <:+: name :=
    ⟨indent, [], by rw [List.append_nil, ← List.append_assoc, ← nameAround]⟩
  have unmarked : ¬ ":=".toList <:+: trim name ++ before := fun mark =>
    not_infix_of_cut? (by decide) cut (mark.trans label)
  have first : ¬ ":=".toList <:+: trim name ++ before ++ [':'] :=
    not_pair_infix_append unmarked (by decide) fun _ starts => absurd starts (by decide)
  have again : cut? ":=".toList (trim name ++ before ++ ":=".toList ++ (behind ++ trim text)) =
      some (trim name ++ before, behind ++ trim text) := by
    rw [List.append_assoc _ ":=".toList]
    exact cut?_of_first first _
  have nameLeft : nonBlank? (trim name ++ before) = some (trim name) := by
    have trimmed := @trim_around [] before (by simp) beforeBlank (trim name)
    rw [List.nil_append, trim_trim] at trimmed
    rw [nonBlank?, trimmed, if_neg named]
  have textLeft : trim (behind ++ trim text) = trim text := by
    have trimmed := @trim_around behind [] behindBlank (by simp) (trim text)
    rwa [List.append_nil, trim_trim] at trimmed
  rw [ofText?_of_trim left (by simp), again]
  simp only [nameLeft, textLeft]

/-- As a string and as a line of a file, a whole definition says the same. -/
theorem IsWholeDefinition.read {s : Text} (whole : IsWholeDefinition s) :
    ∃ name text, Definition.parse s = .ok ⟨some name, text⟩ ∧
      DefinitionLine.ofText? s = some (.opening (some name) text) ∧
      text ≠ [] ∧ text.getLast? ≠ some '/' := by
  obtain ⟨name, text, cut, named, given, ends⟩ := whole.defines
  have asString : Definition.parse s = .ok ⟨some (trim name), trim text⟩ := by
    rw [Definition.parse, cut]
    simp only [if_neg given, nonBlank?, if_neg named]
  exact ⟨trim name, trim text, asString, ofText?_of_cut cut named given whole.uncommented, given,
    ends⟩

/-! ## Lines of whole definitions -/

/-- A definition with layers that do not end in a slash is finished as it is. -/
theorem Definition.finish_eq_self {d : Definition} (given : d.text ≠ [])
    (ends : d.text.getLast? ≠ some '/') : d.finish = (some d, []) := by
  have kept : (d.text.reverse.dropWhile (· == '/')).reverse = d.text := by
    rw [dropWhile_slash ends, List.reverse_reverse]
  simp only [finish, kept, if_neg given]

/-- A definition that has only the line it starts with. -/
theorem Definition.push_start {d : Definition} (given : d.text ≠ []) :
    push ⟨d.name, []⟩ d.text = d := by
  rw [push, if_neg given, if_pos (.inl rfl)]
  rfl

/-- Lines that all start a definition are taken as they are; the reader is in the definition of the
line above, which each of them finishes. -/
theorem Definition.gather_whole {current : Definition} {definitions : List Definition}
    (whole : ∀ d ∈ current :: definitions, d.text ≠ [] ∧ d.text.getLast? ≠ some '/') :
    gather (some current) (definitions.map fun d => .opening d.name d.text) =
      (current :: definitions, []) := by
  induction definitions generalizing current with
  | nil =>
    obtain ⟨given, ends⟩ := whole current List.mem_cons_self
    rw [List.map_nil, gather, finish_eq_self given ends]
    rfl
  | cons next rest ih =>
    obtain ⟨given, ends⟩ := whole current List.mem_cons_self
    have nextGiven := (whole next (List.mem_cons_of_mem _ List.mem_cons_self)).1
    have later := @ih next fun d member => whole d (List.mem_cons_of_mem _ member)
    rw [List.map_cons, gather, push_start nextGiven, later, finish_eq_self given ends]
    rfl

namespace Store

variable {strings : List Text}

/-- Whole definitions are the same to both loaders, wherever they stand: neither has to number
them. -/
theorem exists_definitions (whole : ∀ s ∈ strings, IsWholeDefinition s) :
    ∃ definitions : List Definition,
      strings.filterMap DefinitionLine.ofText? =
        definitions.map (fun d => .opening d.name d.text) ∧
      (∀ d ∈ definitions, d.text ≠ [] ∧ d.text.getLast? ≠ some '/') ∧
      definitions.length = strings.length ∧
      ∀ index store, addStrings index strings store = addDefinitions index definitions store := by
  induction strings with
  | nil => exact ⟨[], rfl, by simp, rfl, fun _ _ => rfl⟩
  | cons s rest ih =>
    obtain ⟨name, text, parsed, line, given, ends⟩ := (whole s List.mem_cons_self).read
    obtain ⟨definitions, lines, others, length, same⟩ :=
      ih fun s member => whole s (List.mem_cons_of_mem _ member)
    refine ⟨⟨some name, text⟩ :: definitions, ?_, ?_, ?_, ?_⟩
    · rw [List.filterMap_cons_some line, lines, List.map_cons]
    · intro d member
      rcases List.mem_cons.1 member with rfl | later
      · exact ⟨given, ends⟩
      · exact others d later
    · rw [List.length_cons, List.length_cons, length]
    · intro index store
      simp only [addStrings, addDefinitions, parsed, same, Option.getD_some]

/-- Whole definitions that are put on lines of their own are loaded as if they were loaded one by
one: with the same number or the same error, and into the same store. -/
theorem loadText_join (store : Store) (whole : ∀ s ∈ strings, IsWholeDefinition s) :
    (store.loadText (join ['\n'] strings)).result = (store.loadStrings strings).result ∧
      (store.loadText (join ['\n'] strings)).state = (store.loadStrings strings).state := by
  obtain ⟨definitions, lines, given, length, same⟩ := exists_definitions whole
  have read : Definition.parseFile (join ['\n'] strings) = (definitions, []) := by
    rw [Definition.parseFile, definitionLines_join fun s member => (whole s member).oneLine, lines]
    cases definitions with
    | nil => rfl
    | cons first rest =>
      have start := Definition.push_start (given first List.mem_cons_self).1
      rw [List.map_cons, Definition.gather, start, Definition.gather_whole given]
  unfold loadText loadStrings
  rw [read, same]
  cases run : (addDefinitions 0 definitions store).result with
  | error e =>
    rw [(Outcome.andThen_of_error run).1, (Outcome.andThen_of_error run).2]
    simp [Outcome.after, Outcome.map, run, Except.map]
  | ok done =>
    rw [(Outcome.andThen_of_ok run).1, (Outcome.andThen_of_ok run).2]
    simp [Outcome.after, Outcome.map, run, Except.map, length]

/-- Strings with blanks of all kinds around their parts and a second mark behind the first: the load
stops at the string whose layer is unknown, after the first one was added. -/
theorem loadText_join_unknown :
    let store := (create { frameSize := 60 } 0).state
    let strings := ["\tone :=\u2003Ether() \r".toList, "two:=/Nothing:=()".toList,
      "three := Ether()".toList]
    (∀ s ∈ strings, IsWholeDefinition s) ∧
      (store.loadText (join ['\n'] strings)).result =
        .error (.unknownLayer "Nothing:=()".toList) ∧
      (store.loadText (join ['\n'] strings)).state = (store.loadStrings strings).state ∧
      (store.loadStrings strings).state.frames.map Frame.name = ["one".toList] := by
  intro store strings
  have whole : ∀ s ∈ strings, IsWholeDefinition s := by
    have first : IsWholeDefinition "\tone :=\u2003Ether() \r".toList :=
      ⟨⟨"\tone ".toList, "\u2003Ether() \r".toList, by decide +kernel⟩, by decide +kernel,
        by decide +kernel⟩
    have second : IsWholeDefinition "two:=/Nothing:=()".toList :=
      ⟨⟨"two".toList, "/Nothing:=()".toList, by decide +kernel⟩, by decide +kernel,
        by decide +kernel⟩
    have third : IsWholeDefinition "three := Ether()".toList :=
      ⟨⟨"three ".toList, " Ether()".toList, by decide +kernel⟩, by decide +kernel,
        by decide +kernel⟩
    simp only [strings, List.forall_mem_cons]
    exact ⟨first, second, third, by simp⟩
  have loaded : (store.loadStrings strings).result =
        .error (.unknownLayer "Nothing:=()".toList) ∧
      (store.loadStrings strings).state.frames.map Frame.name = ["one".toList] := by
    decide +kernel
  obtain ⟨answer, state⟩ := loadText_join store whole
  exact ⟨whole, answer.trans loaded.1, state, loaded.2⟩

end Store

end FrameText
