import FrameText.Proofs.Coverage
import FrameText.Proofs.TextLength

/-!
# Room — no frame that can be described is too long to be shown

A description has at most 31 layers, and two of them show the bytes behind the headers and the
length of the frame.  So there are at most 29 headers to be shown, and then there is room for their
text, whatever their fields and the bytes behind them are.

1. `length_headerTexts_le` bounds the text of the headers that are found, even if the next one is
   cut, and `write_of_cut` says that it is written before the cut header is reported.
2. `unlimited` is what dissection would answer if there was no limit.
3. `decode_of_few` compares both for all data of at most 1514 bytes.
-/

namespace FrameText

variable {reader : Reader} {data : Bytes} {dissection : Dissection}

/-- The headers that are found lie side by side in the data, also where dissection fails in the
end. -/
theorem length_headerTexts_le (reader : Reader) (data : Bytes) :
    (Dissection.ofBytes reader data).headerTexts.flatten.length ≤
      4 * data.length + 60 * (Dissection.ofBytes reader data).headers.length := by
  induction reader, data using Dissection.ofBytes.induct with
  | case1 reader data e stepped =>
    rw [Dissection.ofBytes_eq, stepped]
    exact Nat.zero_le _
  | case2 reader data stepped =>
    rw [Dissection.ofBytes_eq, stepped]
    exact Nat.zero_le _
  | case3 reader data header next behind stepped ih =>
    obtain ⟨fits, rfl⟩ := Reader.step_eq_some stepped
    have text := header.length_fragment_le
    rw [List.length_drop] at ih
    rw [Dissection.ofBytes_eq, stepped]
    simp only [Dissection.headerTexts, List.map_cons, List.flatten_cons, List.length_append,
      List.length_cons, List.length_nil] at ih ⊢
    omega

/-- A cut header is reported if there is room for the text of the headers in front of it. -/
theorem write_of_cut {e : Error} (cut : dissection.rest = .error e)
    (short : dissection.headerTexts.flatten.length + 64 < 8192) (length : Nat) :
    dissection.write length {} = .error e := by
  have blank : ({} : TextBuffer).text = [] := rfl
  obtain ⟨front, written⟩ := @TextBuffer.appendAll_of_short {} dissection.headerTexts
    (by rw [blank, List.length_nil]; omega)
  refine bind_eq_error.2 (.inr ⟨front, written, bind_eq_error.2 (.inl cut)⟩)

/-! ## No limit -/

/-- What dissection would answer if there was no limit to its text. -/
def unlimited (data : Bytes) (start : LayerKind) : Except Error Text :=
  if data = [] then
    .error (.truncated start 1 0)
  else
    let dissection := Dissection.ofBytes (.ofKind start) data
    dissection.rest.map (decodedText dissection.headers data.length)

section Few

variable {context : DecodeContext} {start : LayerKind} {text : Text}

theorem unlimited_ne_textTooLong (need limit : Nat) :
    unlimited data start ≠ .error (.textTooLong need limit) := by
  intro tooLong
  unfold unlimited at tooLong
  split at tooLong
  · cases tooLong
  · simp only at tooLong
    cases rest : (Dissection.ofBytes (.ofKind start) data).rest with
    | error e =>
      rw [rest] at tooLong
      cases tooLong
      -- Readers know nothing about text.
      cases saysCut_of_rest rest
    | ok bytes =>
      rw [rest] at tooLong
      cases tooLong

/-- The text of headers has a layer for each of them and at most two more. -/
theorem length_layerTexts_le (decoded : (context.decode data start).1 = .ok text) :
    (layerTexts text).length ≤ (Dissection.ofBytes (.ofKind start) data).headers.length + 2 := by
  obtain ⟨headers, rest, walk, rfl⟩ := walk_of_decode decoded
  have describes := @describes_decodedParts headers data.length rest (small_of_decode decoded)
  rw [Dissection.ofBytes_eq_ok.2 walk, decodedText, layerTexts_join describes, List.length_map,
    decodedParts, List.length_append, List.length_map]
  refine Nat.add_le_add_left ?_ _
  split
  · exact Nat.le_succ 1
  · exact Nat.le_refl 2

theorem decode_eq_unlimited (most : data.length ≤ 1514)
    (few : (Dissection.ofBytes (.ofKind start) data).headers.length ≤ 29) :
    (context.decode data start).1 = unlimited data start := by
  unfold unlimited
  by_cases empty : data = []
  · rw [decode_result, if_pos empty, if_pos empty]
  · rw [if_neg empty]
    cases rest : (Dissection.ofBytes (.ofKind start) data).rest with
    | error e =>
      have front := length_headerTexts_le (.ofKind start) data
      rw [decode_result, if_neg empty, write_of_cut rest (by omega)]
      simp only [rest]
      rfl
    | ok bytes =>
      have walk : Walk (.ofKind start) data
          (Dissection.ofBytes (.ofKind start) data).headers bytes :=
        Dissection.ofBytes_eq_ok.1 (by rw [← rest])
      have length := length_decodedText_le walk most
      simp only [rest]
      exact decode_of_walk empty walk (by omega)

/-- At most 1514 bytes with at most 29 headers are dissected as if there was no limit: the answer is
the text of all that is found, which has at most 31 layers, or says which header is cut.  It never
says that the text is too long. -/
theorem decode_of_few (most : data.length ≤ 1514)
    (few : (Dissection.ofBytes (.ofKind start) data).headers.length ≤ 29) :
    (∀ need limit, (context.decode data start).1 ≠ .error (.textTooLong need limit)) ∧
    (context.decode data start).1 = unlimited data start ∧
    ∀ text, (context.decode data start).1 = .ok text → (layerTexts text).length ≤ 31 := by
  have answer := @decode_eq_unlimited data context start most few
  refine ⟨fun need limit tooLong => ?_, answer, fun text decoded => ?_⟩
  · rw [answer] at tooLong
    exact unlimited_ne_textTooLong need limit tooLong
  · have layers := length_layerTexts_le decoded
    omega

/-- A frame of 29 tags and 1398 bytes that are all escaped. -/
theorem decode_of_few_tags :
    let data : Bytes := (List.replicate 28 [0xFF, 0xFF, 0x81, 0x00]).flatten ++
      [0xFF, 0xFF, 0xFF, 0xFF] ++ List.replicate 1398 0xFF
    data.length = 1514 ∧ (Dissection.ofBytes (.ofKind .dot1q) data).headers.length = 29 ∧
      ∃ text, decode data .dot1q = .ok text ∧ (layerTexts text).length ≤ 31 := by
  intro data
  have length : data.length = 1514 := by decide +kernel
  have headers : (Dissection.ofBytes (.ofKind .dot1q) data).headers.length = 29 := by
    decide +kernel
  have rest : (Dissection.ofBytes (.ofKind .dot1q) data).rest =
      .ok (List.replicate 1398 0xFF) := by
    decide +kernel
  obtain ⟨-, answer, layers⟩ := @decode_of_few data {} .dot1q (Nat.le_of_eq length)
    (Nat.le_of_eq headers)
  have given : data ≠ [] := List.ne_nil_of_length_pos (by rw [length]; decide)
  have text : decode data .dot1q =
      .ok (decodedText (Dissection.ofBytes (.ofKind .dot1q) data).headers data.length
        (List.replicate 1398 0xFF)) := by
    rw [decode, answer, unlimited, if_neg given]
    simp only [rest]
    rfl
  exact ⟨length, headers, _, text, layers _ text⟩

end Few

end FrameText
