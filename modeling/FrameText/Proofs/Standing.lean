import FrameText.Proofs.Unwinding

/-!
# Standing — all layers of a finished frame at once

`Stands` goes through the layers of a frame up to the first payload, together with the bytes, and
says of each layer that lies within the frame that its bytes are there, with the checksum that the
layer in front fills in.

* `stands_of_build` — the layers of every finished frame stand in it.
* `eq_of_sealHeader` — the bytes of a layer and those behind it leave only one possibility for both
  together, although the checksum is taken over all of them.
-/

namespace FrameText

namespace Layer

/-- Whether the layers up to the first payload stand at the start of the segment, as far as they lie
within it; `outer` is the layer in front of them. -/
def Stands : Option Layer → List Layer → Bytes → Prop
  | _, [], _ => True
  | outer, layer :: rest, segment =>
    layer.isPayload = false →
      (0 < layer.length → layer.length ≤ segment.length →
        segment.take layer.length =
          sealHeader (outer.bind fun outer => outer.sealing? (some layer.kind)) segment
            (layer.bytes (firstKind rest) segment.length)) ∧
      Stands (some layer) rest (segment.drop layer.length)

variable {layers before after : List Layer} {frame final : Frame}

/-- The layers of a frame stand in it. -/
theorem stands_of_build (built : build layers frame = .ok final) (empty : frame.dataLen = 0)
    (grows : NeverCuts 0 layers) : Stands none layers final.data := by
  have used : frame.dataLen ≤ frame.capacity := by
    rw [empty]
    exact Nat.zero_le _
  -- Offsets within a frame are far below what can be counted.
  have short : final.data.length ≤ 1514 := by
    rw [length_data_of_build built used]
    exact (dataLen_bounds_of_build built used).2
  -- The induction is on the layers that are left; those in front are known to be no payloads.
  have suffix : ∀ after before, layers = before ++ after →
      (∀ layer ∈ before, layer.isPayload = false) →
      Stands before.getLast? after (final.data.drop (totalLength before)) := by
    intro after
    induction after with
    | nil =>
      intro before _ _
      trivial
    | cons layer rest ih =>
      intro before split headers header
      constructor
      · intro some fits
        rw [List.length_drop] at fits ⊢
        have inside : totalLength before + layer.length ≤ final.data.length := by omega
        have behind : NeverCuts (totalLength before + layer.length) rest := by
          rw [split] at grows
          have here := (neverCuts_append headers grows).2
          rw [Nat.zero_add, target_of_header header] at here
          exact here
        rw [split] at built
        exact header_of_build headers header used built (by rw [empty, Nat.zero_add]) inside
          (by rw [Limits.wordBound]; omega) (.inr behind)
      · have others := ih (before ++ [layer]) (by rw [split, List.append_assoc]; rfl) (by
          intro found member
          rcases List.mem_append.1 member with inFront | last
          · exact headers found inFront
          · rw [List.mem_singleton.1 last]
            exact header)
        rw [List.getLast?_concat, totalLength_append, ← List.drop_drop] at others
        exact others
  exact suffix layers [] rfl (fun _ member => absurd member List.not_mem_nil)

/-- The checksum of a header is taken over a segment that the header is part of.  Still, what stands
behind the header determines both. -/
theorem eq_of_sealHeader {sealing : Option (Nat × (Bytes → UInt16))} {header first second : Bytes}
    {size : Nat} (width : header.length = size)
    (inside : ∀ field sum, sealing = some (field, sum) → field + 2 ≤ size)
    (firstHeader : first.take size = sealHeader sealing first header)
    (secondHeader : second.take size = sealHeader sealing second header)
    (behind : first.drop size = second.drop size) : first = second := by
  -- With the checksum cleared, a segment is its written header and the bytes behind it.
  have clear : ∀ {segment : Bytes} {field : Nat} {sum : Bytes → UInt16}, field + 2 ≤ size →
      segment.take size = sealHeader (some (field, sum)) segment header →
      Bytes.overwrite segment field [0, 0] =
        Bytes.overwrite header field [0, 0] ++ segment.drop size := by
    intro segment field sum room written
    have zeros : ([0, 0] : Bytes).length = 2 := rfl
    rw [← List.take_append_drop size segment, written, sealHeader]
    generalize sum _ = checksum
    have word := Bytes.length_ofUInt16 checksum
    have kept : (Bytes.overwrite header field (Bytes.ofUInt16 checksum)).length = size := by
      rw [Bytes.length_overwrite (by omega), width]
    rw [Bytes.overwrite_append_left (by omega), Bytes.overwrite_overwrite (by omega) (by omega),
      List.drop_left' kept]
  -- So both checksums are taken over the same bytes.
  have same : sealHeader sealing first header = sealHeader sealing second header := by
    rcases sealing with _ | ⟨field, sum⟩
    · rfl
    · have room := inside field sum rfl
      rw [sealHeader, sealHeader, clear room firstHeader, clear room secondHeader, behind]
  rw [← List.take_append_drop size first, firstHeader, behind, same, ← secondHeader,
    List.take_append_drop]

end Layer

end FrameText
