import FrameText.Dissection.Context
import FrameText.Proofs.Description

/-!
# Dissected text — what the text of a frame says about its headers

1. `ofDescription_decodedText` reads the text of a dissected frame.
2. `TextBuffer.appendAll_of_short` and `TextBuffer.InLimit` say which text fits.
3. `decode_eq_ok` says when dissection succeeds, and with which text.
-/

namespace FrameText

open Text

/-! ## The text of a dissected frame -/

/-- The texts of the layers that describe a dissected frame, each with its layer. -/
def decodedParts (headers : List FoundHeader) (length : Nat) (rest : Bytes) : List (Text × Layer) :=
  (headers.map fun header => (header.fragment.text, header.toLayer)) ++
    if rest = [] then
      [((payloadLayer length).text, .payload (.wire (length + Limits.checkLength)) Limits.fillByte)]
    else
      [(rawLayer rest, .raw rest),
        ((payloadLayer length).text,
          .payload (.wire (length + Limits.checkLength)) Limits.fillByte)]

/-- The text that describes a dissected frame. -/
def decodedText (headers : List FoundHeader) (length : Nat) (rest : Bytes) : Text :=
  join ['/'] ((decodedParts headers length rest).map Prod.fst)

section DecodedText

variable {headers : List FoundHeader} {length : Nat} {rest : Bytes}

theorem decodedParts_ne_nil : decodedParts headers length rest ≠ [] := by
  unfold decodedParts
  intro empty
  have last := (List.append_eq_nil_iff.1 empty).2
  split at last <;> cases last

theorem map_snd_decodedParts :
    (decodedParts headers length rest).map Prod.snd = decodedLayers headers length rest := by
  unfold decodedParts decodedLayers closingLayers
  rw [List.map_append, List.map_map]
  split <;> rfl

theorem describes_decodedParts (small : length + 4 < Limits.wordBound) :
    ∀ part ∈ decodedParts headers length rest, Describes part.1 part.2 := by
  intro part member
  have payload := describes_payloadLayer small
  rcases List.mem_append.1 member with front | closing
  · rcases List.mem_map.1 front with ⟨header, -, rfl⟩
    exact describes_fragment header
  · split at closing
    · rw [List.mem_singleton.1 closing]
      exact payload
    · rcases List.mem_cons.1 closing with rfl | last
      · exact describes_rawLayer rest
      · rw [List.mem_singleton.1 last]
        exact payload

/-- The text of a dissected frame is read as the layers that describe it. -/
theorem ofDescription_decodedText (small : length + 4 < Limits.wordBound)
    (few : (layerTexts (decodedText headers length rest)).length ≤ 31) :
    Layer.ofDescription (decodedText headers length rest) =
      .ok (decodedLayers headers length rest) := by
  have describes := @describes_decodedParts headers length rest small
  rw [decodedText, layerTexts_join describes, List.length_map] at few
  rw [decodedText, ofDescription_join decodedParts_ne_nil describes few, map_snd_decodedParts]

theorem decodedText_cons (header : FoundHeader) :
    decodedText (header :: headers) length rest =
      header.fragment.text ++ '/' :: decodedText headers length rest := by
  cases shape : decodedParts headers length rest with
  | nil => exact absurd shape decodedParts_ne_nil
  | cons part parts =>
    have whole : decodedParts (header :: headers) length rest =
        (header.fragment.text, header.toLayer) :: part :: parts := by
      rw [← shape]
      rfl
    rw [decodedText, decodedText, whole, shape, List.map_cons, List.map_cons, join,
      List.intercalate_cons_cons, List.append_assoc]
    rfl

/-- The pieces that dissection writes, put together. -/
theorem flatten_pieces :
    (Dissection.headerTexts ⟨headers, .ok rest⟩).flatten ++
        (Dissection.closingTexts length rest).flatten =
      decodedText headers length rest := by
  induction headers with
  | nil =>
    unfold Dissection.closingTexts decodedText decodedParts
    split
    · rfl
    · simp [join, Dissection.headerTexts]
  | cons header headers ih =>
    rw [decodedText_cons, ← ih]
    simp [Dissection.headerTexts]

/-- Headers are shown one by one, then the bytes behind them, then the length. -/
theorem decodedText_eq :
    decodedText headers length rest =
      (headers.flatMap fun header => header.fragment.text ++ ['/']) ++
        (if rest = [] then [] else rawLayer rest ++ ['/']) ++ (payloadLayer length).text := by
  rw [← flatten_pieces, Dissection.headerTexts, Dissection.closingTexts, ← List.flatMap_def]
  split <;> simp

end DecodedText

/-! ## Single bytes -/

section Ascii

variable {headers : List FoundHeader} {length : Nat} {rest : Bytes}

theorem isAscii_fragmentText {fragment : Fragment}
    (words : ∀ field ∈ fragment.fields, IsWord field.2) : IsAscii fragment.text := by
  have name : IsAscii (fragment.kind.name ++ ['(']) := by
    cases fragment.kind <;> decide
  have params : IsAscii (join [',']
      (fragment.fields.map fun field => field.1.name ++ '=' :: field.2)) := by
    refine IsAscii.join (by decide) fun part member => ?_
    rcases List.mem_map.1 member with ⟨field, inside, rfl⟩
    have key : IsAscii (field.1.name ++ ['=']) := (isWord_keyName field.1).isAscii.append (by decide)
    rw [List.append_cons]
    exact key.append (words field inside).isAscii
  have closed : IsAscii [')'] := by decide
  have whole := (name.append params).append closed
  rwa [← List.append_cons] at whole

theorem isAscii_escape (bytes : Bytes) : IsAscii (RawText.escape bytes) := by
  intro c member
  rcases List.mem_flatMap.1 member with ⟨b, -, here⟩
  unfold RawText.escapeByte at here
  split at here
  · rename_i plain
    have printed := RawText.plain_printed b.toNat b.toNat_lt
    rw [UInt8.ofNat_toNat] at printed
    rw [List.mem_singleton.1 here, ← String.length_utf8EncodeChar, (printed plain).2.2]
    rfl
  · rcases RawText.hex_printed b.toNat b.toNat_lt with
      ⟨high, low, digits, -, -, highSize, lowSize⟩
    rw [digits] at here
    simp only [List.mem_cons, List.not_mem_nil, or_false] at here
    rcases here with rfl | rfl | rfl | rfl
    · decide
    · decide
    · exact highSize
    · exact lowSize

theorem isAscii_rawLayer (bytes : Bytes) : IsAscii (rawLayer bytes) := by
  have opened : IsAscii (LayerKind.raw.name ++ "('".toList) := by decide
  exact (opened.append (isAscii_escape bytes)).append (by decide)

/-- The text of a dissected frame has as many bytes as characters. -/
theorem isAscii_decodedText : IsAscii (decodedText headers length rest) := by
  have payload : IsAscii (payloadLayer length).text := by
    refine isAscii_fragmentText fun field member => ?_
    rw [List.mem_singleton.1 member]
    exact isWord_decimal _
  refine IsAscii.join (by decide) fun text member => ?_
  rcases List.mem_map.1 member with ⟨part, inside, rfl⟩
  rcases List.mem_append.1 inside with front | closing
  · rcases List.mem_map.1 front with ⟨header, -, rfl⟩
    exact isAscii_fragmentText header.isWord_fields
  · split at closing
    · rw [List.mem_singleton.1 closing]
      exact payload
    · rcases List.mem_cons.1 closing with rfl | last
      · exact isAscii_rawLayer rest
      · rw [List.mem_singleton.1 last]
        exact payload

end Ascii

/-! ## Growing text -/

namespace TextBuffer

variable {buffer later : TextBuffer} {pieces : List Text}

theorem text_of_append {piece : Text} (grown : buffer.append piece = .ok later) :
    later.text = buffer.text ++ piece := by
  unfold append at grown
  simp only at grown
  split at grown
  · cases grown
    rfl
  · split at grown
    · cases grown
    · cases grown
      rfl

theorem text_of_appendAll (grown : buffer.appendAll pieces = .ok later) :
    later.text = buffer.text ++ pieces.flatten := by
  unfold appendAll at grown
  induction pieces generalizing buffer with
  | nil =>
    cases grown
    exact (List.append_nil _).symm
  | cons piece pieces ih =>
    rw [List.foldlM_cons] at grown
    rcases bind_eq_ok.1 grown with ⟨middle, first, others⟩
    rw [ih others, text_of_append first, List.flatten_cons, List.append_assoc]

/-- Text grows as long as it stays below the hard limit, with the slack behind it. -/
theorem append_of_short {piece : Text}
    (short : buffer.text.length + piece.length + 64 < 8192) :
    ∃ later, buffer.append piece = .ok later := by
  unfold append
  by_cases fits : buffer.text.length + piece.length + Limits.textSlack < buffer.room
  · exact ⟨_, if_pos fits⟩
  · exact ⟨_, (if_neg fits).trans (if_neg (Nat.not_le_of_lt short))⟩

theorem appendAll_of_short
    (short : buffer.text.length + pieces.flatten.length + 64 < 8192) :
    ∃ later, buffer.appendAll pieces = .ok later := by
  unfold appendAll
  induction pieces generalizing buffer with
  | nil => exact ⟨buffer, rfl⟩
  | cons piece pieces ih =>
    rw [List.flatten_cons, List.length_append] at short
    rcases @append_of_short buffer piece (by omega) with ⟨middle, first⟩
    have text := congrArg List.length (text_of_append first)
    rw [List.length_append] at text
    rcases @ih middle (by omega) with ⟨later, others⟩
    exact ⟨later, by rw [List.foldlM_cons]; exact bind_eq_ok.2 ⟨middle, first, others⟩⟩

/-- Whether text and room keep below the hard limit, the text with the slack behind it. -/
def InLimit (buffer : TextBuffer) : Prop :=
  buffer.text.length + 64 < 8192 ∧ buffer.room < 8192

theorem InLimit.append {piece : Text} (within : buffer.InLimit)
    (grown : buffer.append piece = .ok later) : later.InLimit := by
  have slack : Limits.textSlack = 64 := rfl
  have limit : Limits.maxDissectionText = 8192 := rfl
  have start : Limits.textStartRoom = 256 := rfl
  rcases within with ⟨-, room⟩
  have text := congrArg List.length (text_of_append grown)
  rw [List.length_append] at text
  unfold TextBuffer.append at grown
  simp only at grown
  split at grown
  · -- The room was made before, so that it is not compared with the limit again.
    cases grown
    exact ⟨by omega, room⟩
  · split at grown
    · cases grown
    · cases grown
      exact ⟨by omega, show max _ _ < 8192 by omega⟩

/-- Whatever is added piece by piece, the text does not grow past the limit. -/
theorem InLimit.appendAll (within : buffer.InLimit) (grown : buffer.appendAll pieces = .ok later) :
    later.InLimit := by
  unfold TextBuffer.appendAll at grown
  induction pieces generalizing buffer with
  | nil =>
    cases grown
    exact within
  | cons piece pieces ih =>
    rw [List.foldlM_cons] at grown
    rcases bind_eq_ok.1 grown with ⟨middle, first, others⟩
    exact ih (within.append first) others

theorem InLimit.write {dissection : Dissection} {length : Nat} (within : buffer.InLimit)
    (written : dissection.write length buffer = .ok later) : later.InLimit := by
  rcases bind_eq_ok.1 written with ⟨front, frontWritten, others⟩
  rcases bind_eq_ok.1 others with ⟨rest, -, closed⟩
  exact (within.appendAll frontWritten).appendAll closed

end TextBuffer

/-! ## Dissection in a context -/

section Decode

variable {context : DecodeContext} {data rest : Bytes} {start : LayerKind} {text : Text}
  {headers : List FoundHeader} {length : Nat} {buffer final : TextBuffer}

/-- The answer does not depend on what the context held before. -/
theorem decode_result (context : DecodeContext) (data : Bytes) (start : LayerKind) :
    (context.decode data start).1 =
      if data = [] then .error (.truncated start 1 0)
      else
        ((Dissection.ofBytes (.ofKind start) data).write data.length {}).map TextBuffer.text := by
  unfold DecodeContext.decode
  by_cases empty : data = []
  · simp only [if_pos empty]
  · simp only [if_neg empty]
    rw [show context.clear.buffer = {} from rfl]
    cases (Dissection.ofBytes (.ofKind start) data).write data.length {} <;> rfl

/-- The text of headers is written where all of it is shorter than the limit. -/
theorem write_of_short
    (short : (decodedText headers length rest).length + 64 < 8192) :
    ∃ final, Dissection.write ⟨headers, .ok rest⟩ length {} = .ok final := by
  -- The text grows piece by piece, and every part of it is shorter than the whole.
  have whole := congrArg List.length (@flatten_pieces headers length rest)
  rw [List.length_append] at whole
  have blank : ({} : TextBuffer).text = [] := rfl
  obtain ⟨front, frontWritten⟩ := @TextBuffer.appendAll_of_short {}
    (Dissection.headerTexts ⟨headers, .ok rest⟩) (by rw [blank, List.length_nil]; omega)
  have frontText := TextBuffer.text_of_appendAll frontWritten
  rw [blank, List.nil_append] at frontText
  obtain ⟨final, closed⟩ := @TextBuffer.appendAll_of_short front
    (Dissection.closingTexts length rest) (by rw [frontText]; omega)
  exact ⟨final, bind_eq_ok.2 ⟨front, frontWritten, bind_eq_ok.2 ⟨rest, rfl, closed⟩⟩⟩

theorem text_of_write (written : Dissection.write ⟨headers, .ok rest⟩ length {} = .ok final) :
    final.text = decodedText headers length rest ∧ final.InLimit := by
  have blank : ({} : TextBuffer).InLimit := ⟨by decide, by decide⟩
  refine ⟨?_, blank.write written⟩
  rcases bind_eq_ok.1 written with ⟨front, frontWritten, others⟩
  rcases bind_eq_ok.1 others with ⟨known, same, closed⟩
  cases same
  rw [TextBuffer.text_of_appendAll closed, TextBuffer.text_of_appendAll frontWritten,
    ← flatten_pieces]
  rfl

/-- Dissection succeeds along a walk whose text is not too long, with this text. -/
theorem decode_eq_ok :
    (context.decode data start).1 = .ok text ↔
      data ≠ [] ∧ ∃ headers rest, Walk (.ofKind start) data headers rest ∧
        text = decodedText headers data.length rest ∧ text.length + 64 < 8192 := by
  rw [decode_result]
  constructor
  · intro decoded
    split at decoded
    · cases decoded
    · rename_i nonempty
      rcases map_eq_ok.1 decoded with ⟨final, written, rfl⟩
      cases found : Dissection.ofBytes (.ofKind start) data with
      | mk headers ended =>
        rw [found] at written
        -- Text is only complete where dissection came to an end.
        rcases bind_eq_ok.1 written with ⟨front, -, others⟩
        rcases bind_eq_ok.1 others with ⟨rest, complete, -⟩
        obtain rfl : ended = .ok rest := complete
        rcases text_of_write written with ⟨shown, short, -⟩
        exact ⟨nonempty, headers, rest, Dissection.ofBytes_eq_ok.1 found, shown, short⟩
  · rintro ⟨nonempty, headers, rest, walk, rfl, short⟩
    rcases write_of_short short with ⟨final, written⟩
    rw [if_neg nonempty, Dissection.ofBytes_eq_ok.2 walk, written, ← (text_of_write written).1]
    rfl

/-- The text of a dissected frame shows the headers of a walk. -/
theorem walk_of_decode (decoded : (context.decode data start).1 = .ok text) :
    ∃ headers rest, Walk (.ofKind start) data headers rest ∧
      text = decodedText headers data.length rest := by
  rcases decode_eq_ok.1 decoded with ⟨-, headers, rest, walk, shown, -⟩
  exact ⟨headers, rest, walk, shown⟩

/-- A walk is shown by a text unless that would be too long. -/
theorem decode_of_walk (nonempty : data ≠ []) (walk : Walk (.ofKind start) data headers rest)
    (short : (decodedText headers data.length rest).length + 64 < 8192) :
    (context.decode data start).1 = .ok (decodedText headers data.length rest) :=
  decode_eq_ok.2 ⟨nonempty, headers, rest, walk, rfl, short⟩

end Decode

end FrameText
