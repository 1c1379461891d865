import FrameText.Proofs.FileLayout
import FrameText.Proofs.TextLength
import Mathlib.Control.Monad.Basic

/-!
# Loaded text — the text of a dissected frame in definition files and strings

Bytes of a frame become text, and that text may be put into a definition file.  Nothing of it may
look like a comment, a name or the end of a line there.

1. `unmarked_fragmentText` and `RawText.all_escape` say so of headers and of literal bytes.
2. `isLayerPhrase_decodedParts` puts both together: the layers of a dissected frame may stand in
   definition files.
3. `DecodeContext.loads_of_decode` says how definition files and strings with the text are read.
-/

namespace FrameText

open Text

/-! ## Headers -/

section Fragments

variable {fragment : Fragment}

/-- A colon stands in a value at most, and an equals sign only in front of values. -/
theorem unmarked_fragmentText (words : ∀ field ∈ fragment.fields, IsWord field.2) :
    ¬ ":=".toList <:+: fragment.text := by
  have name : ':' ∉ fragment.kind.name := by
    cases fragment.kind <;> decide
  have pair : ∀ field ∈ fragment.fields, ¬ [':', '='] <:+: field.1.name ++ '=' :: field.2 := by
    intro field member
    have key : ':' ∉ field.1.name := by
      cases field.1 <;> decide
    have value : '=' ∉ field.2 := fun here =>
      (isWordChar_iff.1 ((words field member).2 _ here)).2.1 rfl
    have behind : ¬ [':', '='] <:+: '=' :: field.2 :=
      @not_pair_infix_append ':' '=' ['='] field.2 (by decide)
        (not_pair_infix_of_not_mem_right value) fun last _ => absurd last (by decide)
    exact not_pair_infix_append (not_pair_infix_of_not_mem_left key) behind
      fun last _ => key (List.mem_of_getLast? last)
  have params : ¬ [':', '='] <:+:
      join [','] (fragment.fields.map fun field => field.1.name ++ '=' :: field.2) := by
    refine not_pair_infix_join fun part member => ?_
    obtain ⟨field, inside, rfl⟩ := List.mem_map.1 member
    exact ⟨by simp, pair field inside, fun impossible => absurd impossible (by decide),
      fun impossible => absurd impossible (by decide)⟩
  have front : ':' ∉ fragment.kind.name ++ ['('] := by simp [name]
  have opened := not_pair_infix_append (not_pair_infix_of_not_mem_left front) params
    fun last _ => front (List.mem_of_getLast? last)
  have closed : ¬ [':', '='] <:+: [')'] := by decide
  have whole := not_pair_infix_append opened closed fun _ first => absurd first (by decide)
  rwa [← List.append_cons] at whole

theorem isBlank_fragmentText (words : ∀ field ∈ fragment.fields, IsWord field.2) :
    ∀ c ∈ fragment.text, isBlank c = false := by
  have name : fragment.kind.name.all (fun c => !isBlank c) = true := by
    cases fragment.kind <;> rfl
  have params : ∀ c ∈ join [',']
      (fragment.fields.map fun field => field.1.name ++ '=' :: field.2), isBlank c = false := by
    intro c member
    rcases mem_join member with comma | ⟨part, inside, here⟩
    · rw [List.mem_singleton.1 comma]
      decide
    · obtain ⟨field, found, rfl⟩ := List.mem_map.1 inside
      rcases List.mem_append.1 here with key | value
      · exact (isWord_keyName field.1).isBlank_eq_false c key
      · rcases List.mem_cons.1 value with rfl | value
        · decide
        · exact (words field found).isBlank_eq_false c value
  intro c member
  simp only [Fragment.text, List.mem_append, List.mem_cons, List.not_mem_nil, or_false] at member
  rcases member with (inName | rfl | inParams) | rfl
  · simpa using List.all_eq_true.1 name c inName
  · decide
  · exact params c inParams
  · decide

end Fragments

/-! ## Literal bytes -/

/-- Whether a character can stand in a `Raw` layer that is loaded: no colon, and no blank but the
space. -/
def isLoadable (c : Char) : Bool :=
  c != ':' && (!isBlank c || c == ' ')

theorem isLoadable_iff {c : Char} :
    isLoadable c = true ↔ c ≠ ':' ∧ (isBlank c = true → c = ' ') := by
  cases blank : isBlank c <;> simp [isLoadable, blank]

/-- A colon is escaped, and so is every blank but the space. -/
theorem RawText.all_escape (bytes : Bytes) : (escape bytes).all isLoadable = true := by
  -- Every byte is looked at once.
  have printed : ∀ n < 256, (escapeByte (UInt8.ofNat n)).all isLoadable = true := by
    decide +kernel
  rw [escape, List.all_flatMap]
  refine List.all_eq_true.2 fun b _ => ?_
  have byte := printed b.toNat b.toNat_lt
  rwa [UInt8.ofNat_toNat] at byte

theorem all_rawLayer (bytes : Bytes) : (rawLayer bytes).all isLoadable = true := by
  have opened : (LayerKind.raw.name ++ "('".toList).all isLoadable = true := by decide
  have closed : "')".toList.all isLoadable = true := by decide
  rw [rawLayer, List.all_append, List.all_append, opened, RawText.all_escape, closed]
  rfl

/-! ## Dissected frames -/

section DecodedText

variable {headers : List FoundHeader} {length : Nat} {rest : Bytes}

/-- No layer of a dissected frame holds a mark, or a blank other than the space. -/
theorem printed_decodedParts : ∀ part ∈ decodedParts headers length rest,
    ¬ ":=".toList <:+: part.1 ∧ ∀ c ∈ part.1, isBlank c = true → c = ' ' := by
  have fragment : ∀ fragment : Fragment, (∀ field ∈ fragment.fields, IsWord field.2) →
      ¬ ":=".toList <:+: fragment.text ∧ ∀ c ∈ fragment.text, isBlank c = true → c = ' ' := by
    intro fragment words
    refine ⟨unmarked_fragmentText words, fun c member blank => ?_⟩
    rw [isBlank_fragmentText words c member] at blank
    cases blank
  have payload := fragment (payloadLayer length) fun field member => by
    rw [List.mem_singleton.1 member]
    exact isWord_decimal _
  intro part member
  rcases List.mem_append.1 member with front | closing
  · obtain ⟨header, -, rfl⟩ := List.mem_map.1 front
    exact fragment header.fragment header.isWord_fields
  · split at closing
    · rw [List.mem_singleton.1 closing]
      exact payload
    · rcases List.mem_cons.1 closing with rfl | last
      · have printed := fun c member =>
          isLoadable_iff.1 (List.all_eq_true.1 (all_rawLayer rest) c member)
        exact ⟨not_pair_infix_of_not_mem_left fun colon => (printed _ colon).1 rfl,
          fun c member => (printed c member).2⟩
      · rw [List.mem_singleton.1 last]
        exact payload

theorem isLayerPhrase_decodedParts (small : length + 4 < Limits.wordBound) :
    ∀ layer ∈ (decodedParts headers length rest).map Prod.fst, IsLayerPhrase layer := by
  intro layer member
  obtain ⟨part, inside, rfl⟩ := List.mem_map.1 member
  have describes := describes_decodedParts small part inside
  rcases printed_decodedParts part inside with ⟨unmarked, blanks⟩
  exact { nonempty := describes.nonempty, trimmed := describes.trimmed, unmarked := unmarked
          uncommented := not_pair_infix_of_not_mem_left describes.slash
          oneLine := fun newline => absurd (blanks _ newline rfl) (by decide)
          slash := describes.slash }

/-- The text of a dissected frame may stand in definition files, and no slash is at its ends. -/
theorem isPhrase_decodedText (small : length + 4 < Limits.wordBound) :
    IsPhrase (decodedText headers length rest) ∧
      (decodedText headers length rest).head? ≠ some '/' ∧
      (decodedText headers length rest).getLast? ≠ some '/' :=
  isPhrase_join (fun empty => decodedParts_ne_nil (List.map_eq_nil_iff.1 empty))
    (isLayerPhrase_decodedParts small)

theorem blank_decodedText : ∀ c ∈ decodedText headers length rest, isBlank c = true → c = ' ' := by
  intro c member blank
  rcases mem_join member with slash | ⟨text, inside, here⟩
  · rw [List.mem_singleton.1 slash] at blank
    exact absurd blank (by decide)
  · obtain ⟨part, found, rfl⟩ := List.mem_map.1 inside
    exact (printed_decodedParts part found).2 c here blank

end DecodedText

/-! ## Definitions -/

/-- A definition on one line is read as it is written. -/
theorem parseFile_line {name : Text} {layers : List Text} (phrase : IsPhrase name)
    (given : layers ≠ []) (phrases : ∀ layer ∈ layers, IsLayerPhrase layer) :
    Definition.parseFile (name ++ " := ".toList ++ join ['/'] layers) =
      ([⟨some name, join ['/'] layers⟩], []) := by
  have space : IsGap [' '] := by
    intro c member
    rw [List.mem_singleton.1 member]
    decide
  have empty : IsGap [] := by simp [IsGap]
  -- The layout with everything on the line of the name.
  let line : LaidLine := ⟨[], layers, false, [], none, empty, phrases, empty, by simp⟩
  let laid : LaidDefinition := ⟨some name, [' '], [' '], line, [], by simpa using phrase, space, space,
    by simpa [line] using given⟩
  have text : join ['\n'] laid.lines = name ++ " := ".toList ++ join ['/'] layers := by
    simp [laid, line, LaidDefinition.lines, LaidLine.textBehind, LaidLine.row, commentText, given,
      join]
  have meant : laid.definition = ⟨some name, join ['/'] layers⟩ := by
    simp [laid, line, LaidDefinition.definition, LaidDefinition.layers]
  rw [← text, laid.parseFile_lines, meant]

/-- What dissection prints is taken by definition files and strings as it is: no part of it is a
comment or a mark, nothing is trimmed from it, and it stays on its line. -/
theorem DecodeContext.loads_of_decode {context : DecodeContext} {data : Bytes} {start : LayerKind}
    {text : Text} (decoded : (context.decode data start).1 = .ok text) :
    ¬ "//".toList <:+: text ∧ ¬ ":=".toList <:+: text ∧ '\n' ∉ text ∧
      (∀ c ∈ text, isBlank c = true → c = ' ') ∧
      (∀ c, text.head? = some c ∨ text.getLast? = some c → isBlank c = false ∧ c ≠ '/') ∧
      stripComment text = text ∧ Definition.parse text = .ok ⟨none, text⟩ ∧
      ∀ name, IsPhrase name →
        Definition.parseFile (name ++ " := ".toList ++ text) = ([⟨some name, text⟩], []) := by
  obtain ⟨-, headers, rest, walk, rfl, short⟩ := decode_eq_ok.1 decoded
  have small : data.length + 4 < Limits.wordBound := by
    have length := length_le_decodedText walk data.length
    rw [Limits.wordBound]
    omega
  have phrases := @isLayerPhrase_decodedParts headers data.length rest small
  have given : (decodedParts headers data.length rest).map Prod.fst ≠ [] := fun empty =>
    decodedParts_ne_nil (List.map_eq_nil_iff.1 empty)
  rcases isPhrase_join given phrases with ⟨phrase, starts, ends⟩
  refine ⟨phrase.uncommented, phrase.unmarked, phrase.oneLine, blank_decodedText, ?_,
    stripComment_eq_self phrase.uncommented, ?_, fun name named => parseFile_line named given phrases⟩
  · rintro c (first | last)
    · refine ⟨phrase.solid.1 c first, ?_⟩
      rintro rfl
      exact starts first
    · refine ⟨phrase.solid.2 c last, ?_⟩
      rintro rfl
      exact ends last
  · have unmarked : cut? ":=".toList (decodedText headers data.length rest) = none :=
      (cut?_eq_none_iff (by decide)).2 phrase.unmarked
    rw [Definition.parse, unmarked]
    exact congrArg (fun text => Except.ok (Definition.mk none text)) phrase.trimmed

/-- Captured bytes that spell a mark, a comment and a line break are loaded as what they are. -/
theorem DecodeContext.loads_of_decode_mark :
    let data : Bytes := [0x61, 0x3A, 0x3D, 0x62, 0x20, 0x2F, 0x2F, 0x20, 0x63, 0x0A, 0x64]
    ∃ text, (DecodeContext.decode {} data .raw).1 = .ok text ∧
      Definition.parseFile ("x := ".toList ++ text) = ([⟨some "x".toList, text⟩], []) := by
  intro data
  let text : Text := "Raw('a\\x3a=b \\x2f\\x2f c\\x0ad')/Payload(len=15)".toList
  have decoded : (DecodeContext.decode {} data .raw).1 = .ok text := by decide +kernel
  have name : IsPhrase ['x'] := ⟨by decide, by decide, by decide, by decide, by decide⟩
  have loaded := (DecodeContext.loads_of_decode decoded).2.2.2.2.2.2.2 ['x'] name
  exact ⟨text, decoded, loaded⟩

end FrameText
