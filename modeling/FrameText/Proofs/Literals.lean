import FrameText.Proofs.TextLength
import Mathlib.Control.Monad.Basic

/-!
# Literals — bytes that survive every pass over a description

A description is split at slashes and trimmed, its layers lose their names and parentheses, and a
literal loses its quotes and its escapes.  Any bytes come through all of this, whichever of these
characters they spell.

1. `layerTexts_of_decode` lists the layers of the text of a dissected frame.
2. `splitLayers_around` finds a layer wherever it stands.
3. `RawText.read_rawLayer` follows the bytes that dissection could not name through all passes.
-/

namespace FrameText

open Text

/-! ## Layers of a dissected frame -/

section Layers

variable {context : DecodeContext} {data bytes : Bytes} {start : LayerKind} {text : Text}

/-- The bytes that nothing is known about are one layer of the text, the last but one. -/
theorem layerTexts_of_decode (decoded : (context.decode data start).1 = .ok text)
    (given : bytes ≠ []) (unnamed : (Dissection.ofBytes (.ofKind start) data).rest = .ok bytes) :
    layerTexts text =
      (Dissection.ofBytes (.ofKind start) data).headers.map (·.fragment.text) ++
        [rawLayer bytes, (payloadLayer data.length).text] := by
  obtain ⟨headers, rest, walk, rfl⟩ := walk_of_decode decoded
  have small : data.length + 4 < Limits.wordBound := small_of_decode decoded
  rw [Dissection.ofBytes_eq_ok.2 walk] at unnamed ⊢
  obtain rfl : rest = bytes := Except.ok.inj unnamed
  rw [decodedText, layerTexts_join (describes_decodedParts small), decodedParts, if_neg given,
    List.map_append, List.map_map]
  rfl

/-- A layer is found wherever it stands between slashes, with any blanks around it, and the layers
around it are found as they are without it. -/
theorem splitLayers_around {layer : Layer} (describes : Describes text layer) {gap gap' : Text}
    (blank : ∀ c ∈ gap, isBlank c = true) (blank' : ∀ c ∈ gap', isBlank c = true)
    (front back : List Text) (max : Nat) :
    splitLayers (join ['/'] (front ++ (gap ++ text ++ gap') :: back)) max =
      let layers := front.flatMap layerTexts ++ text :: back.flatMap layerTexts
      if max < layers.length then .error (.tooManyLayers max) else .ok layers := by
  have trimmed : trim (gap ++ text ++ gap') = text :=
    (trim_around blank blank' text).trans describes.trimmed
  -- A slash is not blank, so that none stands in the gaps.
  have solid : '/' ∉ gap ++ text ++ gap' := by
    intro member
    rcases List.mem_append.1 member with front | behind
    · rcases List.mem_append.1 front with inGap | inside
      · exact absurd (blank _ inGap) (by decide)
      · exact describes.slash inside
    · exact absurd (blank' _ behind) (by decide)
  have one : layerTexts (gap ++ text ++ gap') = [text] := by
    rw [layerTexts_of_solid solid (by rw [trimmed]; exact describes.nonempty), trimmed]
  have layers : layerTexts (join ['/'] (front ++ (gap ++ text ++ gap') :: back)) =
      front.flatMap layerTexts ++ text :: back.flatMap layerTexts := by
    rw [layerTexts_pieces, List.flatMap_append, List.flatMap_cons, one, List.singleton_append]
  simp only [splitLayers, layers]

end Layers

/-! ## All passes -/

namespace RawText

/-- Bytes that dissection cannot name become one layer of the text, the last but one.  This layer is
found again wherever it stands between slashes, whatever blanks stand around it, and it is counted
as one.  It is a `Raw` layer, and its parameters are read as the bytes. -/
theorem read_rawLayer {bytes : Bytes} (given : bytes ≠ []) :
    (∀ (context : DecodeContext) data start text, (context.decode data start).1 = .ok text →
      (Dissection.ofBytes (.ofKind start) data).rest = .ok bytes →
      layerTexts text =
        (Dissection.ofBytes (.ofKind start) data).headers.map (·.fragment.text) ++
          [rawLayer bytes, (payloadLayer data.length).text]) ∧
    (∀ (front back : List Text) (gap gap' : Text) (max : Nat),
      (∀ c ∈ gap, isBlank c = true) → (∀ c ∈ gap', isBlank c = true) →
      splitLayers (join ['/'] (front ++ (gap ++ rawLayer bytes ++ gap') :: back)) max =
        let layers := front.flatMap layerTexts ++ rawLayer bytes :: back.flatMap layerTexts
        if max < layers.length then .error (.tooManyLayers max) else .ok layers) ∧
    ∃ params, LayerToken.ofText? (rawLayer bytes) = some ⟨.raw, params⟩ ∧
      parse params = .ok bytes := by
  refine ⟨fun context data start text decoded => layerTexts_of_decode decoded given, ?_, ?_⟩
  · intro front back gap gap' max blank blank'
    exact splitLayers_around (describes_rawLayer bytes) blank blank' front back max
  · refine ⟨'(' :: ('\'' :: escape bytes ++ ['\'']) ++ [')'], ?_, parse_escape bytes⟩
    rw [rawLayer_eq, List.append_assoc]
    exact LayerToken.ofText?_name .raw _

/-- Bytes that spell parentheses, quotes, a slash, a backslash and a letter that is not ASCII, with
blanks at both ends. -/
theorem read_rawLayer_hostile :
    let bytes : Bytes :=
      [0x20, 0x28, 0x27, 0x2F, 0x5C, 0x3A, 0x00, 0xC3, 0xA9, 0x27, 0x29, 0x20]
    let layer : Text := "Raw(' (\\x27\\x2f\\x5c\\x3a\\x00\\xc3\\xa9\\x27) ')".toList
    let description : Text := "Ether()/ ".toList ++ layer ++ "\t//Echo()".toList
    layerTexts (layer ++ "/Payload(len=16)".toList) = [layer, "Payload(len=16)".toList] ∧
      splitLayers description 3 = .ok ["Ether()".toList, layer, "Echo()".toList] ∧
      splitLayers description 2 = .error (.tooManyLayers 2) ∧
      ∃ params, LayerToken.ofText? layer = some ⟨.raw, params⟩ ∧ parse params = .ok bytes := by
  intro bytes layer description
  have given : bytes ≠ [] := List.cons_ne_nil _ _
  have shown : rawLayer bytes = layer := by decide +kernel
  have length : (payloadLayer bytes.length).text = "Payload(len=16)".toList := by decide +kernel
  have decoded : (DecodeContext.decode {} bytes .raw).1 =
      .ok (layer ++ "/Payload(len=16)".toList) := by
    decide +kernel
  have unnamed : Dissection.ofBytes (.ofKind .raw) bytes = ⟨[], .ok bytes⟩ :=
    Dissection.ofBytes_eq_ok.2 (.stop rfl)
  obtain ⟨layers, around, read⟩ := read_rawLayer given
  have listed := layers {} bytes .raw _ decoded (congrArg Dissection.rest unnamed)
  rw [unnamed, length] at listed
  rw [shown] at listed around read
  have blank : ∀ c ∈ [' '], isBlank c = true := List.forall_mem_singleton.2 (by decide)
  have blank' : ∀ c ∈ ['\t'], isBlank c = true := List.forall_mem_singleton.2 (by decide)
  have found := around ["Ether()".toList] [[], "Echo()".toList] [' '] ['\t']
  exact ⟨listed, found 3 blank blank', found 2 blank blank', read⟩

end RawText

end FrameText
