import FrameText.Proofs.Building

/-!
# Unwinding — what the way back leaves of an inner layer

The layers of a frame are settled from the last to the first.  Once a layer is settled, the layers
in front of it write their own headers, and the layer directly in front may fill in its checksum;
all other bytes from the layer on are final.

1. `Layer.build_append` says this for the layers in front that are no payloads.
2. `Layer.take_build_of_neverBelow` says that the layers behind keep the bytes that no payload cuts
   off.
3. `Layer.header_of_build` puts them together: the header of a layer as it stands in the finished
   frame.
-/

namespace FrameText

namespace Layer

/-! ## Seals -/

section Seals

variable {sealing : Option (Nat × (Bytes → UInt16))} {field count : Nat} {sum : Bytes → UInt16}
  {tail : Bytes}

/-- A seal is the checksum of a transport layer. -/
theorem transportField_of_sealing {layer : Layer} {next : Option LayerKind}
    (plan : layer.sealing? next = some (field, sum)) :
    ∃ wire, transportField? next = some (field, wire) := by
  unfold sealing? at plan
  split at plan
  · rename_i found
    cases plan
    exact ⟨_, found⟩
  · cases plan

/-- Only transport layers have their checksum filled in by the layer in front. -/
theorem sealing_eq_none {kind : LayerKind} (unsealed : transportField? (some kind) = none)
    (front : Option Layer) : (front.bind fun layer => layer.sealing? (some kind)) = none := by
  cases front with
  | none => rfl
  | some layer =>
    rw [Option.bind_some, sealing?, unsealed]
    cases layer.segmentSum? (some kind) <;> rfl

/-- A checksum is filled in inside the header of the layer behind. -/
theorem add_two_le_of_sealing {layer behind : Layer}
    (plan : layer.sealing? (some behind.kind) = some (field, sum)) : field + 2 ≤ behind.length := by
  rcases transportField_of_sealing plan with ⟨wire, found⟩
  cases behind with
  | udp _ _ =>
    cases found
    exact Nat.le_refl 8
  | tcp _ =>
    cases found
    show 18 ≤ 20
    omega
  | vlan tag _ => cases tag <;> cases found
  | _ => cases found

/-- Behind its checksum a segment is not changed by its seal. -/
theorem drop_sealTail {shift : Nat} (fits : count ≤ tail.length)
    (behind : ∀ field sum, sealing = some (field, sum) → field + 2 ≤ shift) :
    (sealTail sealing count tail).drop shift = tail.drop shift := by
  match sealing with
  | none => rfl
  | some (field, sum) =>
    have := behind field sum rfl
    by_cases short : count < field + 2
    · rw [sealTail, if_pos short]
    · rw [sealTail, if_neg short]
      exact Bytes.drop_overwrite (by rw [Bytes.length_ofUInt16]; omega) (by omega)

/-- The header of a transport layer with its checksum, in terms of the sealed segment: the sum is
taken over the segment with the checksum cleared. -/
def sealHeader (sealing : Option (Nat × (Bytes → UInt16))) (segment header : Bytes) : Bytes :=
  match sealing with
  | none => header
  | some (field, sum) =>
    Bytes.overwrite header field (Bytes.ofUInt16 (sum (Bytes.overwrite segment field [0, 0])))

/-- A seal is a checksum over the segment that it is part of. -/
theorem take_sealTail {size : Nat} (inside : size ≤ count) (fits : count ≤ tail.length)
    (behind : ∀ field sum, sealing = some (field, sum) → field + 2 ≤ size) :
    (sealTail sealing count tail).take size =
      sealHeader sealing ((sealTail sealing count tail).take count) (tail.take size) := by
  match sealing with
  | none => rfl
  | some (field, sum) =>
    have := behind field sum rfl
    have zeros : ([0, 0] : Bytes).length = 2 := rfl
    have sealed : sealTail (some (field, sum)) count tail =
        Bytes.overwrite tail field
          (Bytes.ofUInt16 (sum ((Bytes.overwrite tail field [0, 0]).take count))) := by
      rw [sealTail, if_neg (by omega)]
    rw [sealed]
    generalize checksum : Bytes.ofUInt16 (sum ((Bytes.overwrite tail field [0, 0]).take count)) = c
    have width : c.length = 2 := by
      rw [← checksum, Bytes.length_ofUInt16]
    -- Clearing the sealed segment again gives what the sum was taken over.
    have cleared : Bytes.overwrite ((Bytes.overwrite tail field c).take count) field [0, 0] =
        (Bytes.overwrite tail field [0, 0]).take count := by
      rw [Bytes.take_overwrite_comm (by omega) (by omega),
        Bytes.overwrite_overwrite (by rw [width, zeros])
          (by rw [List.length_take]; omega),
        Bytes.take_overwrite_comm (by omega) (by omega)]
    rw [sealHeader, cleared, checksum, Bytes.take_overwrite_comm (by omega) (by omega)]

end Seals

/-! ## The layers in front -/

/-- The number of bytes that layers have of their own. -/
def totalLength : List Layer → Nat
  | [] => 0
  | layer :: rest => layer.length + totalLength rest

/-- The seal on the bytes behind the last of the layers in front. -/
def sealingBehind (before : List Layer) (next : Option LayerKind) :
    Option (Nat × (Bytes → UInt16)) :=
  before.getLast?.bind fun layer => layer.sealing? next

theorem transportField_of_sealingBehind {before : List Layer} {next : Option LayerKind}
    {field : Nat} {sum : Bytes → UInt16} (plan : sealingBehind before next = some (field, sum)) :
    ∃ wire, transportField? next = some (field, wire) := by
  unfold sealingBehind at plan
  rcases Option.bind_eq_some_iff.1 plan with ⟨outer, -, plan⟩
  exact transportField_of_sealing plan

variable {before rest after : List Layer} {layer : Layer} {frame final : Frame}

theorem isPayload_eq_false (header : layer.kind ≠ .payload) : layer.isPayload = false := by
  cases layer with
  | payload _ _ => exact absurd rfl header
  | _ => rfl

/-- A layer with a header makes room for that header. -/
theorem target_of_header (header : layer.isPayload = false) (offset : Nat) :
    layer.target offset = offset + layer.length := by
  cases layer with
  | payload size fill => cases header
  | _ => rfl

/-- Of the bytes from an inner layer on, the layers in front change nothing but the checksum that
the last of them fills in. -/
theorem build_append (headers : ∀ layer ∈ before, layer.isPayload = false)
    (used : frame.dataLen ≤ frame.capacity) (built : build (before ++ rest) frame = .ok final) :
    ∃ placed inner,
      build rest placed = .ok inner ∧
      placed.dataLen = frame.dataLen + totalLength before ∧
      placed.dataLen ≤ placed.capacity ∧ placed.capacity = frame.capacity ∧
      inner.dataLen = final.dataLen ∧
      final.buffer.drop placed.dataLen =
        sealTail (sealingBehind before (firstKind rest)) (final.dataLen - placed.dataLen)
          (inner.buffer.drop placed.dataLen) := by
  induction before generalizing frame final with
  | nil => exact ⟨frame, final, built, rfl, used, rfl, rfl, rfl⟩
  | cons outer more ih =>
    rw [List.cons_append] at built
    rcases (build_cons_eq_ok used).1 built with ⟨room, -, middle, behind, rfl⟩
    have header := headers outer List.mem_cons_self
    have target := target_of_header header frame.dataLen
    have capacity := capacity_placed room used
    rcases build_behind room used behind with ⟨middleUsed, -, headerRoom⟩
    obtain ⟨placed, inner, innerBuilt, start, innerUsed, sameCapacity, sameLength, tail⟩ :=
      ih (fun layer h => headers layer (List.mem_cons_of_mem _ h)) (used_placed room used) behind
    rw [dataLen_placed, target] at start
    refine ⟨placed, inner, innerBuilt, ?_, innerUsed, sameCapacity.trans capacity, sameLength, ?_⟩
    · rw [start, totalLength, Nat.add_assoc]
    · have split : placed.dataLen = frame.dataLen + outer.length + totalLength more := start
      have outerTail := @drop_settledBuffer_behind outer frame.dataLen middle.dataLen
        (firstKind (more ++ rest)) middle.buffer header headerRoom
      -- Only the last layer in front can have a transport header behind it to seal.
      -- The layers between change nothing from the inner layer on.
      match more with
      | [] =>
        have same : placed.dataLen = frame.dataLen + outer.length := split
        rw [sealingBehind, List.getLast?_nil, Option.bind_none, sealTail] at tail
        simp only [sealingBehind, List.getLast?_singleton, Option.bind_some]
        rw [← tail, same]
        exact outerTail
      | next :: others =>
        have last : sealingBehind (outer :: next :: others) (firstKind rest) =
            sealingBehind (next :: others) (firstKind rest) := by
          rw [sealingBehind, sealingBehind, List.getLast?_cons_cons]
        have kept : (sealTail (outer.sealing? (firstKind (next :: others ++ rest)))
            (middle.dataLen - (frame.dataLen + outer.length))
            (middle.buffer.drop (frame.dataLen + outer.length))).drop
              (totalLength (next :: others)) =
            (middle.buffer.drop (frame.dataLen + outer.length)).drop
              (totalLength (next :: others)) := by
          apply drop_sealTail
          · rw [List.length_drop]
            exact Nat.sub_le_sub_right middleUsed _
          · intro field sum plan
            have inside : field + 2 ≤ next.length := add_two_le_of_sealing plan
            rw [totalLength]
            omega
        rw [last, ← tail, split, ← List.drop_drop, outerTail, kept, List.drop_drop]

/-! ## The layers behind -/

/-- Whether a payload is given a size below the length that the frame has reached in front of it. -/
def cuts (layer : Layer) (offset : Nat) : Bool :=
  match layer with
  | payload (.wire length) _ => decide ((PayloadSize.wire length).target offset < offset)
  | _ => false

/-- No payload is given a size below the length that the frame has reached in front of it. -/
def NeverCuts : Nat → List Layer → Prop
  | _, [] => True
  | offset, layer :: rest => layer.cuts offset = false ∧ NeverCuts (layer.target offset) rest

instance decidableNeverCuts : (offset : Nat) → (layers : List Layer) →
    Decidable (NeverCuts offset layers)
  | _, [] => inferInstanceAs (Decidable True)
  | offset, layer :: rest =>
    have := decidableNeverCuts (layer.target offset) rest
    inferInstanceAs (Decidable (_ ∧ _))

/-- No layer ends in front of `count` bytes. -/
def NeverBelow (count : Nat) : Nat → List Layer → Prop
  | _, [] => True
  | offset, layer :: rest =>
    count ≤ layer.target offset ∧ NeverBelow count (layer.target offset) rest

instance decidableNeverBelow (count : Nat) : (offset : Nat) → (layers : List Layer) →
    Decidable (NeverBelow count offset layers)
  | _, [] => inferInstanceAs (Decidable True)
  | offset, layer :: rest =>
    have := decidableNeverBelow count (layer.target offset) rest
    inferInstanceAs (Decidable (_ ∧ _))

section Behind

variable {offset count : Nat}

/-- Without a cut, no layer ends in front of where it was placed.  A payload that appends reaches at
most the largest length that can be counted. -/
theorem le_target (grows : layer.cuts offset = false)
    (inFront : count ≤ offset) (countable : count < Limits.wordBound) :
    count ≤ layer.target offset := by
  cases layer with
  | payload size fill =>
    cases size with
    | unchanged => exact inFront
    | wire length => exact Nat.le_trans inFront (Nat.le_of_not_lt (of_decide_eq_false grows))
    | append length =>
      show count ≤ min (offset + length) (Limits.wordBound - 1)
      omega
  | _ => exact Nat.le_trans inFront (Nat.le_add_right _ _)

/-- Without a cut, all layers end behind what is in front of them. -/
theorem neverBelow_of_neverCuts (grows : NeverCuts offset rest) (inFront : count ≤ offset)
    (countable : count < Limits.wordBound) : NeverBelow count offset rest := by
  induction rest generalizing offset with
  | nil => trivial
  | cons layer rest ih =>
    have target := le_target grows.1 inFront countable
    exact ⟨target, ih grows.2 target⟩

/-- The frame reaches at least as far as none of its layers ends in front of. -/
theorem le_reach_of_neverBelow (above : NeverBelow count offset rest) (inFront : count ≤ offset) :
    count ≤ reach offset rest := by
  induction rest generalizing offset with
  | nil => exact inFront
  | cons layer rest ih => exact ih above.2 above.1

/-- A frame that no payload cuts reaches at least as far as any layer in front. -/
theorem le_reach (grows : NeverCuts offset rest) (inFront : count ≤ offset)
    (countable : count < Limits.wordBound) : count ≤ reach offset rest :=
  le_reach_of_neverBelow (neverBelow_of_neverCuts grows inFront countable) inFront

/-- A length that can be counted was reached without a cut from a length that can be counted. -/
theorem le_reach_of_neverCuts (grows : NeverCuts offset rest)
    (small : reach offset rest + 1 < Limits.wordBound) : offset ≤ reach offset rest := by
  have bounded : min offset (Limits.wordBound - 1) ≤ reach offset rest :=
    le_reach grows (Nat.min_le_left _ _) (by omega)
  omega

/-- Layers that are joined are placed one list after the other. -/
theorem reach_append (offset : Nat) (front back : List Layer) :
    reach offset (front ++ back) = reach (reach offset front) back := by
  induction front generalizing offset with
  | nil => rfl
  | cons layer front ih => exact ih (layer.target offset)

/-- Layers with a header make room for that header each. -/
theorem reach_of_headers (headers : ∀ layer ∈ before, layer.isPayload = false) (offset : Nat) :
    reach offset before = offset + totalLength before := by
  induction before generalizing offset with
  | nil => rfl
  | cons layer before ih =>
    have others := ih (fun layer member => headers layer (List.mem_cons_of_mem _ member))
      (layer.target offset)
    rw [reach, others, target_of_header (headers layer List.mem_cons_self), totalLength,
      Nat.add_assoc]

/-- Whether there is a cut is seen list by list. -/
theorem neverCuts_append_iff {front back : List Layer} :
    NeverCuts offset (front ++ back) ↔
      NeverCuts offset front ∧ NeverCuts (reach offset front) back := by
  induction front generalizing offset with
  | nil => exact (and_iff_right trivial).symm
  | cons layer front ih => exact (and_congr_right fun _ => ih).trans and_assoc.symm

/-- Without a cut, no layer behind is cut either. -/
theorem neverCuts_append (headers : ∀ layer ∈ before, layer.isPayload = false)
    (grows : NeverCuts offset (before ++ rest)) : NeverCuts (offset + totalLength before) rest := by
  rw [← reach_of_headers headers]
  exact (neverCuts_append_iff.1 grows).2

/-- The layers behind keep the bytes that none of them ends in front of. -/
theorem take_build_of_neverBelow (built : build rest frame = .ok final)
    (used : frame.dataLen ≤ frame.capacity) (above : NeverBelow count frame.dataLen rest)
    (inFront : count ≤ frame.dataLen) :
    final.buffer.take count = frame.buffer.take count := by
  induction rest generalizing frame final with
  | nil =>
    rcases Frame.finish_eq_ok.1 built with ⟨-, rfl⟩
    rfl
  | cons layer rest ih =>
    rcases (build_cons_eq_ok used).1 built with ⟨room, -, inner, behind, rfl⟩
    rcases build_behind room used behind with ⟨innerUsed, -, header⟩
    have kept := ih behind (used_placed room used) (by rw [dataLen_placed]; exact above.2)
      (by rw [dataLen_placed]; exact above.1)
    calc
      (layer.settledBuffer frame.dataLen (firstKind rest) inner.dataLen inner.buffer).take count
          = inner.buffer.take count := take_settledBuffer inFront above.1 header innerUsed
      _ = (layer.placed frame).buffer.take count := kept
      _ = frame.buffer.take count := by
        rw [buffer_placed]
        exact Bytes.take_overwrite inFront used

end Behind

/-! ## Headers in the finished frame -/

/-- The bytes of a layer before any checksum of a layer in front is filled in. -/
def bytes (layer : Layer) (next : Option LayerKind) (length : Nat) : Bytes :=
  (layer.headerBytes next length).getD (layer.early 0)

/-- A layer that is no payload has as many bytes as its length says. -/
theorem length_bytes (header : layer.isPayload = false) (next : Option LayerKind) (length : Nat) :
    (layer.bytes next length).length = layer.length := by
  cases written : layer.headerBytes next length with
  | some found =>
    rw [bytes, written, Option.getD_some]
    exact length_headerBytes written
  | none =>
    rw [bytes, written, Option.getD_none]
    cases layer with
    | tsc found => exact Header.length_put found
    | payload _ _ => cases header
    | echo | raw _ => rfl
    | _ => cases written

/-- A layer that is settled, or whose bytes the layers behind have kept, stands in the buffer. -/
theorem take_drop_of_build (header : layer.isPayload = false)
    (used : frame.dataLen ≤ frame.capacity) (built : build (layer :: after) frame = .ok final)
    (kept : layer.headerBytes (firstKind after) (final.dataLen - frame.dataLen) ≠ none ∨
      NeverBelow (frame.dataLen + layer.length) (frame.dataLen + layer.length) after) :
    (final.buffer.drop frame.dataLen).take layer.length =
      layer.bytes (firstKind after) (final.dataLen - frame.dataLen) := by
  rcases (build_cons_eq_ok used).1 built with ⟨room, -, inner, behind, rfl⟩
  have target := target_of_header header frame.dataLen
  rcases build_behind room used behind with ⟨innerUsed, -, headerRoom⟩
  rw [Frame.capacity] at headerRoom
  have front := @length_getD_headerBytes layer frame.dataLen (firstKind after) inner.buffer
    (inner.dataLen - frame.dataLen) headerRoom
  have stands : ((layer.settledBuffer frame.dataLen (firstKind after) inner.dataLen
      inner.buffer).drop frame.dataLen).take layer.length =
      (layer.headerBytes (firstKind after) (inner.dataLen - frame.dataLen)).getD
        (Bytes.slice inner.buffer frame.dataLen layer.length) := by
    rw [drop_settledBuffer header headerRoom, List.take_append_of_le_length (by omega),
      List.take_of_length_le (by omega)]
  -- A header was written on the way back; other layers were complete on the way down, and the
  -- layers behind have kept them.
  refine stands.trans ?_
  cases written : layer.headerBytes (firstKind after) (inner.dataLen - frame.dataLen) with
  | some found => rw [bytes, written, Option.getD_some, Option.getD_some]
  | none =>
    have above := kept.resolve_left (fun found => found written)
    have length := length_bytes header (firstKind after) (inner.dataLen - frame.dataLen)
    have early : layer.early frame.dataLen = layer.early 0 := by
      cases layer with
      | payload _ _ => cases header
      | _ => rfl
    have stop : (layer.placed frame).dataLen = frame.dataLen + layer.length :=
      (dataLen_placed layer frame).trans target
    have unchanged : inner.buffer.take (frame.dataLen + layer.length) =
        (layer.placed frame).buffer.take (frame.dataLen + layer.length) :=
      take_build_of_neverBelow behind (used_placed room used) (by rw [stop]; exact above)
        (Nat.le_of_eq stop.symm)
    rw [bytes, written, Option.getD_none] at length
    rw [bytes, written, Option.getD_none, Option.getD_none,
      ← Bytes.slice_take (Nat.le_refl _), unchanged, buffer_placed, early, Bytes.slice_take
      (Nat.le_refl _), Bytes.slice, Bytes.drop_overwrite_self used,
      List.take_append_of_le_length (by omega), List.take_of_length_le (by omega)]

/-- The bytes in use are as many as are counted. -/
theorem length_data_of_build (built : build rest frame = .ok final)
    (used : frame.dataLen ≤ frame.capacity) : final.data.length = final.dataLen := by
  rw [Frame.data, List.length_take]
  exact Nat.min_eq_left (build_used built used).1

/-- The header of a layer as it stands in the finished frame, with its checksum. -/
theorem header_of_build (headers : ∀ outer ∈ before, outer.isPayload = false)
    (header : layer.isPayload = false) (used : frame.dataLen ≤ frame.capacity)
    (built : build (before ++ layer :: after) frame = .ok final) {offset : Nat}
    (start : offset = frame.dataLen + totalLength before)
    (inside : offset + layer.length ≤ final.data.length)
    (small : offset + layer.length < Limits.wordBound)
    (kept : layer.headerBytes (firstKind after) (final.data.length - offset) ≠ none ∨
      NeverCuts (offset + layer.length) after) :
    Bytes.slice final.data offset layer.length =
      sealHeader (sealingBehind before (some layer.kind)) (final.data.drop offset)
        (layer.bytes (firstKind after) (final.data.length - offset)) := by
  rw [length_data_of_build built used] at inside kept ⊢
  rw [Frame.data, Bytes.slice_take inside, List.drop_take]
  obtain ⟨placed, inner, innerBuilt, place, placedUsed, -, length, tail⟩ :=
    build_append headers used built
  have same : placed.dataLen = offset := place.trans start.symm
  -- The layer and those behind it are a build of their own, in the frame that those in front leave.
  have stands := take_drop_of_build header placedUsed innerBuilt (by
    rw [same, length]
    exact kept.imp_right fun grows => neverBelow_of_neverCuts grows (Nat.le_refl _) small)
  have innerUsed := (build_used innerBuilt placedUsed).1
  rw [same] at tail stands
  rw [length] at stands
  rw [Bytes.slice, tail, ← stands]
  apply take_sealTail
  · omega
  · rw [List.length_drop]
    rw [length] at innerUsed
    exact Nat.sub_le_sub_right innerUsed _
  · intro field sum plan
    rcases Option.bind_eq_some_iff.1 plan with ⟨outer, -, plan⟩
    exact add_two_le_of_sealing plan

/-- A layer behind no payload and no IP layer stands in the frame as it was settled. -/
theorem slice_of_build (headers : ∀ layer ∈ before, layer.isPayload = false)
    (header : layer.isPayload = false) (used : frame.dataLen ≤ frame.capacity)
    (built : build (before ++ layer :: after) frame = .ok final)
    (start : offset = frame.dataLen + totalLength before)
    (inside : offset + layer.length ≤ final.data.length)
    (small : final.data.length < 65536) {bytes : Bytes}
    (settled : layer.headerBytes (firstKind after) (final.data.length - offset) = some bytes)
    (unsealed : transportField? (some layer.kind) = none) :
    Bytes.slice final.data offset layer.length = bytes := by
  have bounded : offset + layer.length < Limits.wordBound := by
    rw [Limits.wordBound]
    omega
  have stands := header_of_build headers header used built start inside bounded
    (.inl (by rw [settled]; exact Option.some_ne_none _))
  have none : sealingBehind before (some layer.kind) = none := sealing_eq_none unsealed _
  rw [stands, none, sealHeader, Layer.bytes, settled, Option.getD_some]

theorem totalLength_append (front back : List Layer) :
    totalLength (front ++ back) = totalLength front + totalLength back := by
  induction front with
  | nil => rw [List.nil_append, totalLength, Nat.zero_add]
  | cons layer front ih => rw [List.cons_append, totalLength, totalLength, ih, Nat.add_assoc]

/-- A segment whose checksum an IP layer fills in keeps that checksum, which is computed over the
finished segment. -/
theorem segment_of_build {outer : Layer} (headers : ∀ layer ∈ before, layer.isPayload = false)
    (outerHeader : outer.isPayload = false) (used : frame.dataLen ≤ frame.capacity)
    (built : build (before ++ outer :: layer :: after) frame = .ok final) {offset field : Nat}
    {sum : Bytes → UInt16} (plan : outer.sealing? (some layer.kind) = some (field, sum))
    (start : offset = frame.dataLen + totalLength before + outer.length)
    (inside : offset + layer.length ≤ final.data.length)
    (small : offset + layer.length < Limits.wordBound) :
    final.data.drop offset =
      Bytes.overwrite (final.data.drop offset) field
        (Bytes.ofUInt16 (sum (Bytes.overwrite (final.data.drop offset) field [0, 0]))) := by
  have room : field + 2 ≤ layer.length := add_two_le_of_sealing plan
  -- Only the two transport layers can be sealed, and these write their header on the way back.
  have settled : ∀ next length, layer.isPayload = false ∧ layer.headerBytes next length ≠ none := by
    intro next length
    unfold sealing? at plan
    cases layer with
    | udp _ _ => exact ⟨rfl, by simp [headerBytes]⟩
    | tcp _ => exact ⟨rfl, by simp [headerBytes]⟩
    | vlan tag _ => cases tag <;> cases outer <;> cases plan
    | _ => cases outer <;> cases plan
  have front : ∀ layer ∈ before ++ [outer], layer.isPayload = false := by
    intro layer member
    rcases List.mem_append.1 member with inFront | last
    · exact headers layer inFront
    · rw [List.mem_singleton.1 last]
      exact outerHeader
  have sealing : sealingBehind (before ++ [outer]) (some layer.kind) = some (field, sum) := by
    rw [sealingBehind, List.getLast?_concat, Option.bind_some, plan]
  have stands := header_of_build front (settled none 0).1 used
    (by rw [List.append_assoc]; exact built)
    (by rw [totalLength_append, start, Nat.add_assoc]; rfl) inside small
    (.inl (settled (firstKind after) _).2)
  rw [sealing, sealHeader] at stands
  -- The checksum in the frame is the one that was filled in, whatever its value.
  generalize checksum : Bytes.ofUInt16 (sum
    (Bytes.overwrite (final.data.drop offset) field [0, 0])) = c at stands ⊢
  have width : c.length = 2 := by rw [← checksum, Bytes.length_ofUInt16]
  have length := length_bytes (settled none 0).1 (firstKind after) (final.data.length - offset)
  have word : Bytes.slice (final.data.drop offset) field 2 = c := by
    calc
      Bytes.slice (final.data.drop offset) field 2
          = Bytes.slice ((final.data.drop offset).take layer.length) field 2 :=
        (Bytes.slice_take room).symm
      _ = Bytes.slice (Bytes.overwrite (layer.bytes (firstKind after)
            (final.data.length - offset)) field c) field 2 := by
        rw [Bytes.slice] at stands
        rw [stands]
      _ = c := by
        exact Bytes.slice_overwrite_self (by omega) width
  rw [← word]
  exact (Bytes.overwrite_slice (by rw [List.length_drop]; omega)).symm

end Layer

end FrameText
