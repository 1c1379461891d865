import FrameText.Proofs.FlatLayout
import FrameText.Proofs.TextLength

/-!
# Acceptance — the encoder reads all that dissection prints

1. `RepeatsTag` says of a description that a VLAN tag stands directly in front of another of its
   kind.
2. `encode_decodedText` gives the answer of the encoder for the text of a dissected frame that has
   at most 31 layers.
3. `Frame.encode_of_decode` says of every text of a dissected frame whether it is encoded, and why
   not.
-/

namespace FrameText

open Text

/-! ## Kinds of layers -/

/-- The kinds of the layers of a description, where they are known. -/
def layerKinds (text : Text) : List (Option LayerKind) :=
  (layerTexts text).map fun layer => (LayerToken.ofText? layer).map LayerToken.kind

/-- Whether a VLAN tag stands directly in front of another of its kind. -/
def RepeatsTag (text : Text) : Prop :=
  ∃ tag : VlanTag, [some tag.kind, some tag.kind] <:+: layerKinds text

/-- Two known layers stand one behind the other as their kinds do. -/
theorem pair_infix_map_some {kind : LayerKind} {kinds : List LayerKind} :
    [some kind, some kind] <:+: kinds.map some ↔ [kind, kind] <:+: kinds := by
  refine ⟨fun pair => ?_, fun pair => pair.map some⟩
  have back := pair.filterMap id
  rwa [List.filterMap_map, Function.id_comp, List.filterMap_some] at back

/-! ## The text of a dissected frame -/

section DecodedText

variable {reader : Reader} {data rest : Bytes} {headers : List FoundHeader} {length : Nat}
  {config : Config} {frame : Frame}

theorem layerKinds_decodedText (small : length + 4 < Limits.wordBound) :
    layerKinds (decodedText headers length rest) =
      ((decodedLayers headers length rest).map Layer.kind).map some := by
  have describes := @describes_decodedParts headers length rest small
  rw [layerKinds, decodedText, layerTexts_join describes,
    ← map_snd_decodedParts, List.map_map, List.map_map, List.map_map]
  refine List.map_congr_left fun part member => ?_
  rcases (describes part member).read with ⟨token, found, read⟩
  show (LayerToken.ofText? part.1).map LayerToken.kind = some part.2.kind
  rw [found, Option.map_some, LayerToken.kind_of_ofToken read]

theorem repeatsTag_decodedText (small : length + 4 < Limits.wordBound) :
    RepeatsTag (decodedText headers length rest) ↔
      ∃ tag : VlanTag,
        [tag.kind, tag.kind] <:+: (decodedLayers headers length rest).map Layer.kind := by
  unfold RepeatsTag
  rw [layerKinds_decodedText small]
  exact exists_congr fun tag => pair_infix_map_some

/-- The text of a dissected frame that has not too many layers is encoded unless a tag is
repeated. -/
theorem encode_decodedText (walk : Walk reader data headers rest)
    (small : data.length + 4 < Limits.wordBound)
    (few : (layerTexts (decodedText headers data.length rest)).length ≤ 31)
    (described : frame.text = decodedText headers data.length rest)
    (large : 1514 ≤ frame.capacity) (room : data.length ≤ frame.capacity) :
    (frame.encode config).result =
      match Layer.lastRepeat? (decodedLayers headers data.length rest) with
      | none => .ok ()
      | some tag => .error (.repeatedTag tag) := by
  have read : Layer.ofDescription frame.text = .ok (decodedLayers headers data.length rest) := by
    rw [described]
    exact ofDescription_decodedText small few
  have capacity : frame.reset.capacity = frame.capacity := List.length_replicate
  have used : frame.reset.dataLen ≤ frame.reset.capacity := Nat.zero_le _
  have fits : Layer.RoomFor frame.reset.capacity frame.reset.dataLen
      (decodedLayers headers data.length rest) := by
    rw [capacity]
    have closing := (target_closing_bounds data.length 0).2
    exact roomFor_decodedLayers walk (Nat.le_of_eq (Nat.zero_add _)) (Nat.le_trans closing large)
      room
  cases repeats : Layer.lastRepeat? (decodedLayers headers data.length rest) with
  | none =>
    obtain ⟨final, built⟩ := (Layer.exists_build_iff used).2 (Layer.buildable_iff.2 ⟨fits, repeats⟩)
    exact ((@Frame.encode_eq_ok config frame final).2 ⟨_, read, built⟩).1
  | some tag =>
    exact Frame.encode_of_build_error read (Layer.build_of_repeat used fits repeats)

end DecodedText

/-! ## All data -/

/-- What dissection prints is encoded in every buffer that holds the data and the longest frame,
unless it has more than 31 layers or a VLAN tag directly in front of another of its kind; the error
then names the one or the other. -/
theorem Frame.encode_of_decode {context : DecodeContext} {config : Config} {frame : Frame}
    {data : Bytes} {start : LayerKind} {text : Text}
    (decoded : (context.decode data start).1 = .ok text) (described : frame.text = text)
    (room : max 1514 data.length ≤ frame.capacity) :
    ((frame.encode config).result ≠ .ok () ↔ 31 < (layerTexts text).length ∨ RepeatsTag text) ∧
    (31 < (layerTexts text).length → (frame.encode config).result = .error (.tooManyLayers 31)) ∧
    ((layerTexts text).length ≤ 31 → RepeatsTag text →
      ∃ tag : VlanTag, [some tag.kind, some tag.kind] <:+: layerKinds text ∧
        (frame.encode config).result = .error (.repeatedTag tag.kind)) := by
  rcases decode_eq_ok.1 decoded with ⟨-, headers, rest, walk, rfl, short⟩
  have small : data.length + 4 < Limits.wordBound := by
    have length := length_le_decodedText walk data.length
    rw [Limits.wordBound]
    omega
  by_cases many : 31 < (layerTexts (decodedText headers data.length rest)).length
  · have refused : (frame.encode config).result = .error (.tooManyLayers 31) :=
      encode_of_many (by rw [described]; exact many)
    have failed : (frame.encode config).result ≠ .ok () := by simp [refused]
    exact ⟨iff_of_true failed (.inl many), fun _ => refused, fun few => absurd many (by omega)⟩
  · have answer := @encode_decodedText _ _ _ _ config frame walk small (Nat.le_of_not_lt many)
      described (Nat.le_trans (Nat.le_max_left _ _) room) (Nat.le_trans (Nat.le_max_right _ _) room)
    cases repeats : Layer.lastRepeat? (decodedLayers headers data.length rest) with
    | none =>
      rw [repeats] at answer
      have single : ¬ RepeatsTag (decodedText headers data.length rest) := by
        intro repeated
        obtain ⟨tag, pair⟩ := (repeatsTag_decodedText small).1 repeated
        exact Layer.not_pair_infix_of_lastRepeat? tag repeats pair
      exact ⟨iff_of_false (fun failed => failed answer) (not_or.2 ⟨many, single⟩),
        fun long => absurd long many, fun _ repeated => absurd repeated single⟩
    | some kind =>
      rw [repeats] at answer
      obtain ⟨tag, rfl, pair⟩ := Layer.exists_tag_of_lastRepeat? repeats
      have shown : [some tag.kind, some tag.kind] <:+:
          layerKinds (decodedText headers data.length rest) := by
        rw [layerKinds_decodedText small]
        exact pair.map some
      have failed : (frame.encode config).result ≠ .ok () := by simp [answer]
      exact ⟨iff_of_true failed (.inr ⟨tag, shown⟩), fun long => absurd long many,
        fun _ _ => ⟨tag, shown, answer⟩⟩

/-- A frame with two 802.1Q tags, one behind the other, is shown by a text that is refused. -/
theorem Frame.encode_of_decode_tags :
    let data : Bytes :=
      [0xFF, 0xFF, 0xFF, 0xFF, 0xFF, 0xFF, 0, 0, 0, 0, 0, 0, 0x81, 0x00, 0x00, 0x01, 0x81, 0x00,
        0x00, 0x02, 0x00, 0x00]
    ∃ text, decode data .ether = .ok text ∧ RepeatsTag text ∧
      ∃ tag : VlanTag, ((Frame.new [] text 1514).encode {}).result = .error (.repeatedTag tag.kind) := by
  intro data
  let text : Text :=
    "Ether(dst=FF:FF:FF:FF:FF:FF,src=00:00:00:00:00:00)/".toList ++
      "Dot1q(vlan=1,prio=0,cfi=0)/Dot1q(vlan=2,prio=0,cfi=0)/Payload(len=26)".toList
  have decoded : (DecodeContext.decode {} data .ether).1 = .ok text := by decide +kernel
  have few : (layerTexts text).length ≤ 31 := by decide +kernel
  have repeated : RepeatsTag text :=
    ⟨.customer, [some .ether], [some .payload], by decide +kernel⟩
  have room : max 1514 data.length ≤ (Frame.new [] text 1514).capacity :=
    Nat.le_of_eq List.length_replicate.symm
  obtain ⟨tag, -, refused⟩ := (Frame.encode_of_decode decoded rfl room).2.2 few repeated
  exact ⟨text, decoded, repeated, tag, refused⟩

end FrameText
