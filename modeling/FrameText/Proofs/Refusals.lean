import FrameText.Proofs.Building

/-!
# Refusals — layers that the encoder does not build

Where the buffer has room, only a tag directly in front of another of its kind makes the encoder
stop.

1. `Layer.RoomFor` and `Layer.lastRepeat?` are the two halves of `Layer.Buildable`.
2. `Layer.build_of_repeat` names the tag that a build stops at, and
   `Layer.exists_tag_of_lastRepeat?` finds it among the kinds of the layers.
3. `Frame.encode_of_scan_error` and `Frame.encode_of_build_error` carry a refusal to the encoder.
-/

namespace FrameText

open Encoding

namespace Layer

variable {layer : Layer} {rest layers : List Layer} {frame : Frame} {capacity offset : Nat}

/-! ## Room and repeats -/

/-- Whether a buffer of this capacity has room for the layers behind `offset` bytes and for the end
of the frame. -/
def RoomFor (capacity : Nat) : Nat → List Layer → Prop
  | offset, [] => Limits.clamp offset = offset ∨ Limits.clamp offset ≤ capacity
  | offset, layer :: rest =>
    layer.target offset ≤ capacity ∧ RoomFor capacity (layer.target offset) rest

/-- The last tag directly in front of another of its kind.  Layers are settled from the last one to
the first, so that no other is noticed. -/
def lastRepeat? : List Layer → Option LayerKind
  | [] => none
  | layer :: rest => lastRepeat? rest <|> layer.repeated? (firstKind rest)

theorem lastRepeat?_cons_eq_none_iff :
    lastRepeat? (layer :: rest) = none ↔
      lastRepeat? rest = none ∧ layer.repeated? (firstKind rest) = none := by
  rw [lastRepeat?]
  cases lastRepeat? rest <;> simp

/-- Layers can be built where there is room and no tag is repeated. -/
theorem buildable_iff :
    Buildable capacity offset layers ↔ RoomFor capacity offset layers ∧ lastRepeat? layers = none := by
  induction layers generalizing offset with
  | nil => exact (and_iff_left rfl).symm
  | cons layer rest ih =>
    rw [lastRepeat?_cons_eq_none_iff]
    constructor
    · rintro ⟨room, single, others⟩
      rcases ih.1 others with ⟨behind, none⟩
      exact ⟨⟨room, behind⟩, none, single⟩
    · rintro ⟨⟨room, behind⟩, none, single⟩
      exact ⟨room, single, ih.2 ⟨behind, none⟩⟩

/-- A build with room for all layers stops at the last repeated tag. -/
theorem build_of_repeat {tag : LayerKind} (used : frame.dataLen ≤ frame.capacity)
    (room : RoomFor frame.capacity frame.dataLen layers) (repeats : lastRepeat? layers = some tag) :
    build layers frame = .error (.repeatedTag tag) := by
  induction layers generalizing frame with
  | nil => cases repeats
  | cons layer rest ih =>
    rcases room with ⟨fits, others⟩
    have down := place_eq fits
    have behind : RoomFor (layer.placed frame).capacity (layer.placed frame).dataLen rest := by
      rw [dataLen_placed, capacity_placed fits used]
      exact others
    rw [lastRepeat?] at repeats
    cases later : lastRepeat? rest with
    | some other =>
      -- The layers behind are settled first, so that their tag is the one that is named.
      rw [later] at repeats
      cases repeats
      have failed := ih (used_placed fits used) behind later
      exact bind_eq_error.2 (.inr ⟨_, down, bind_eq_error.2 (.inl failed)⟩)
    | none =>
      rw [later] at repeats
      obtain ⟨inner, built⟩ := (exists_build_iff (used_placed fits used)).2
        (buildable_iff.2 ⟨behind, later⟩)
      rcases build_behind fits used built with ⟨innerUsed, -, header⟩
      have back : layer.settle frame.dataLen (firstKind rest) inner = .error (.repeatedTag tag) := by
        rw [settle_eq header innerUsed, show layer.repeated? (firstKind rest) = some tag from repeats]
      exact bind_eq_error.2 (.inr ⟨_, down, bind_eq_error.2 (.inr ⟨inner, built, back⟩)⟩)

/-! ## Repeats among kinds -/

/-- A tag is repeated where the layer behind it has its kind. -/
theorem repeated?_eq_some {next : Option LayerKind} {kind : LayerKind} :
    layer.repeated? next = some kind ↔
      ∃ tag : VlanTag, kind = tag.kind ∧ layer.kind = tag.kind ∧ next = some tag.kind := by
  cases layer with
  | vlan tag header =>
    constructor
    · intro repeats
      rcases Option.ite_none_right_eq_some.1 repeats with ⟨same, named⟩
      exact ⟨tag, (Option.some.inj named).symm, rfl, same⟩
    · rintro ⟨other, rfl, same, behind⟩
      have kinds : tag.kind = other.kind := same
      rw [repeated?, kinds, if_pos behind]
  | _ =>
    constructor
    · intro impossible
      cases impossible
    · rintro ⟨tag, -, impossible, -⟩
      cases tag <;> cases impossible

/-- Two tags of a kind stand one behind the other at the front or further behind. -/
theorem pair_infix_cons {kind : LayerKind} :
    [kind, kind] <:+: (layer :: rest).map Layer.kind ↔
      layer.kind = kind ∧ firstKind rest = some kind ∨ [kind, kind] <:+: rest.map Layer.kind := by
  have first : [kind] <+: rest.map Layer.kind ↔ firstKind rest = some kind := by
    cases rest with
    | nil => simp [firstKind]
    | cons next others => simp [firstKind, List.cons_prefix_cons, eq_comm]
  rw [List.map_cons, List.infix_cons_iff, List.cons_prefix_cons, first, eq_comm (a := kind)]

/-- The tag that a build stops at stands in front of another of its kind. -/
theorem exists_tag_of_lastRepeat? {kind : LayerKind} (repeats : lastRepeat? layers = some kind) :
    ∃ tag : VlanTag, kind = tag.kind ∧ [tag.kind, tag.kind] <:+: layers.map Layer.kind := by
  induction layers with
  | nil => cases repeats
  | cons layer rest ih =>
    rw [lastRepeat?] at repeats
    cases later : lastRepeat? rest with
    | some other =>
      rw [later] at repeats
      cases repeats
      rcases ih later with ⟨tag, rfl, behind⟩
      exact ⟨tag, rfl, pair_infix_cons.2 (.inr behind)⟩
    | none =>
      rw [later] at repeats
      rcases repeated?_eq_some.1 repeats with ⟨tag, rfl, here, next⟩
      exact ⟨tag, rfl, pair_infix_cons.2 (.inl ⟨here, next⟩)⟩

theorem not_pair_infix_of_lastRepeat? (tag : VlanTag) (single : lastRepeat? layers = none) :
    ¬ [tag.kind, tag.kind] <:+: layers.map Layer.kind := by
  induction layers with
  | nil => simp
  | cons layer rest ih =>
    rcases lastRepeat?_cons_eq_none_iff.1 single with ⟨behind, front⟩
    rintro pair
    rcases pair_infix_cons.1 pair with ⟨here, next⟩ | later
    · rw [repeated?_eq_some.2 ⟨tag, rfl, here, next⟩] at front
      cases front
    · exact ih behind later

end Layer

/-! ## The encoder -/

/-- The encoder stops where the build does. -/
theorem encodeLayers_of_build_error {verbose : Bool} {index : Nat} {tokens : List LayerToken}
    {layers : List Layer} {frame : Frame} {e : Error}
    (spelled : tokens.mapM Layer.ofToken = .ok layers) (failed : Layer.build layers frame = .error e) :
    (encodeLayers verbose index tokens frame).result = .error e := by
  induction tokens generalizing index layers frame with
  | nil =>
    cases spelled
    have ended : frame.finish = .error e := failed
    rw [encodeLayers_nil]
    rcases finishLength_eq frame with ⟨-, finished⟩ | ⟨fault, unfinished, failed⟩
    · rw [finished] at ended
      cases ended
    · rw [failed] at ended
      cases ended
      rw [Outcome.result_after, (Outcome.andThen_of_error unfinished).1]
  | cons token rest ih =>
    rcases mapM_cons_eq_ok.1 spelled with ⟨layer, behind, read, others, rfl⟩
    rcases bind_eq_error.1 failed with unplaced | ⟨placed, down, inside⟩
    · rw [encodeLayers_of_unplaced read unplaced]
    · rw [encodeLayers_of_placed read down, Outcome.result_after]
      rcases bind_eq_error.1 inside with unbuilt | ⟨inner, built, unsettled⟩
      · have run : (encodeLayers verbose (index + 1) rest placed).result = .error e :=
          ih others unbuilt
        exact (Outcome.andThen_of_error run).1
      · have run := @encodeLayers_of_build verbose (index + 1) rest behind placed inner others built
        rw [(Outcome.andThen_of_ok run.1).1, run.2, leave_of_error unsettled]

namespace Frame

variable {config : Config} {frame : Frame} {e : Error}

theorem encode_of_scan_error (failed : (scan false frame.text).1 = .error e) :
    (frame.encode config).result = .error e := by
  rw [← scan_result config.verbose] at failed
  rw [encode_of_unscanned failed]

/-- A description with too many layers is refused before any of them is looked at. -/
theorem encode_of_many (many : 31 < (layerTexts frame.text).length) :
    (frame.encode config).result = .error (.tooManyLayers 31) := by
  apply encode_of_scan_error
  unfold scan splitLayers
  simp only [if_pos (show Limits.maxLayers < (layerTexts frame.text).length from many)]
  rfl

theorem encode_of_build_error {layers : List Layer}
    (spelled : Layer.ofDescription frame.text = .ok layers)
    (failed : Layer.build layers frame.reset = .error e) :
    (frame.encode config).result = .error e := by
  obtain ⟨tokens, found, read⟩ := bind_eq_ok.1 spelled
  rw [← scan_result config.verbose] at found
  exact (encode_eq_error found).2 (encodeLayers_of_build_error read failed)

end Frame

end FrameText
