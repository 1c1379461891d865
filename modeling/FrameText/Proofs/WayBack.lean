import FrameText.Proofs.TagStacks

/-!
# Way back — nothing but a repeated tag can stop the encoder there

A layer remembers where it was placed, and writes its header there when the layers behind it are
encoded.  By then the frame has been lengthened by these layers, cut by payloads among them, and
brought into the limits of Ethernet.  The buffer still has all that the layer accesses.

1. `Layer.backExtents` are the parts of the buffer that a layer accesses on its way back, and
   `Layer.exists_settle_iff` says that the way back needs these and no others.
2. `Encoding.encodeSlots` is the encoder that finds its layers in numbered slots;
   `Encoding.encodeSlots_eq` says that it never looks behind the last one.
3. `Layer.settles_of_room` is the way back of one layer, `Encoding.Calls.settles` and
   `Encoding.Calls.fault_of_returned` carry it through the calls of a run.
4. `Frame.wayBack_fits` says so of every description and every capacity.
-/

namespace FrameText

open Encoding

/-! ## Definitions -/

namespace Layer

/-- What is accessed to fill in the checksum of the transport segment that starts at `start`: the
checksum, the segment, and the checksum again. -/
def sealExtents (start : Nat) (next : Option LayerKind) (dataLen : Nat) : List Extent :=
  match transportField? next with
  | none => []
  | some (field, _) =>
    if dataLen - start < field + 2 then
      []
    else
      [⟨start + field, 2⟩, ⟨start, dataLen - start⟩, ⟨start + field, 2⟩]

/-- The parts of the buffer that a layer accesses on the way back, in this order. -/
def backExtents (layer : Layer) (offset : Nat) (next : Option LayerKind) (dataLen : Nat) :
    List Extent :=
  match layer with
  | ether _ | vlan _ _ | udp _ _ | tcp _ | vxlan _ => [⟨offset, layer.length⟩]
  | ipv4 _ _ | ipv6 _ _ =>
    sealExtents (offset + layer.length) next dataLen ++ [⟨offset, layer.length⟩]
  | echo | tsc _ | raw _ => []
  | payload size fill =>
    if size.target offset < dataLen ∧ fill ≠ 0 then
      [⟨size.target offset, dataLen - size.target offset⟩]
    else
      []

/-- Whether a layer that was placed behind `offset` bytes can be settled in this frame, which the
layers behind it have left. -/
structure Settles (layer : Layer) (offset : Nat) (next : Option LayerKind) (inner : Frame) :
    Prop where
  /-- All that is accessed lies in the buffer. -/
  inside : ∀ extent ∈ layer.backExtents offset next inner.dataLen, extent.stop ≤ inner.capacity
  /-- Nothing goes wrong but that a tag is repeated. -/
  settled : (∃ settled, layer.settle offset next inner = .ok settled) ∨
    ∃ tag : VlanTag, layer.settle offset next inner = .error (.repeatedTag tag.kind) ∧
      layer.kind = tag.kind ∧ next = some tag.kind
  /-- The length that the header announces is not cut to the width of its field. -/
  counted : (lengthField (inner.dataLen - layer.countsFrom offset)).toNat =
    inner.dataLen - layer.countsFrom offset

end Layer

namespace Encoding

/-- The slots of an encoder, the last of which stands for the end of the frame. -/
def slots (tokens : List LayerToken) : List (Option LayerToken) :=
  tokens.map some ++ [none]

/-- Encodes the layers from the slot of this index on, if there is such a slot. -/
def encodeSlots (verbose : Bool) (table : List (Option LayerToken)) (index : Nat) (frame : Frame) :
    Outcome Frame (Option LayerKind) :=
  match found : table[index]? with
  | none => ⟨.error (.tooManyLayers (Limits.maxLayers + 1)), frame, []⟩
  | some none =>
    ((finishLength frame).andThen fun _ => turn verbose index).after
      [entry verbose index frame.dataLen none]
  | some (some token) =>
    let entered := entry verbose index frame.dataLen (some token)
    match Layer.ofToken token with
    | .error e => ⟨.error e, frame, [entered]⟩
    | .ok layer =>
      match layer.place frame with
      | .error e => ⟨.error e, frame, [entered]⟩
      | .ok placed =>
        ((encodeSlots verbose table (index + 1) placed).andThen
          (leave verbose index layer frame.dataLen)).after [entered]
termination_by table.length - index
decreasing_by
  have inside := (List.getElem?_eq_some_iff.1 found).1
  omega

end Encoding

/-! ## Access to the buffer -/

namespace Frame

variable {frame changed : Frame} {offset length : Nat}

theorem inside_of_window {bytes : Bytes} (read : frame.window offset length = .ok bytes) :
    offset + length ≤ frame.capacity := by
  unfold window at read
  split at read
  · cases read
  · exact Nat.le_of_not_lt ‹_›

/-- Bytes are changed in a part of the buffer that was looked at. -/
theorem inside_of_modifyWindow {change : Bytes → Except Error Bytes}
    (written : frame.modifyWindow offset length change = .ok changed) :
    offset + length ≤ frame.capacity := by
  obtain ⟨_, read, -⟩ := bind_eq_ok.1 written
  exact inside_of_window read

theorem exists_write_iff {bytes : Bytes} :
    (∃ written, frame.write offset bytes = .ok written) ↔
      offset + bytes.length ≤ frame.capacity :=
  ⟨fun ⟨_, written⟩ => inside_of_modifyWindow written, fun fits => ⟨_, write_eq fits⟩⟩

theorem exists_writeHeader_iff {α : Type} [Header α] {header : α} :
    (∃ written, frame.writeHeader offset header = .ok written) ↔
      offset + Header.size α ≤ frame.capacity :=
  ⟨fun ⟨_, written⟩ => inside_of_modifyWindow written, fun fits => ⟨_, writeHeader_eq fits⟩⟩

theorem exists_fill_iff {byte : UInt8} :
    (∃ filled, frame.fill offset length byte = .ok filled) ↔ offset + length ≤ frame.capacity :=
  ⟨fun ⟨_, filled⟩ => inside_of_modifyWindow filled, fun fits => ⟨_, fill_eq fits⟩⟩

theorem capacity_of_write {bytes : Bytes} (written : frame.write offset bytes = .ok changed) :
    changed.capacity = frame.capacity := by
  have inside := exists_write_iff.1 ⟨changed, written⟩
  rw [write_eq inside] at written
  cases written
  exact Bytes.length_overwrite inside

end Frame

/-! ## The way back of a layer -/

namespace Layer

variable {layer : Layer} {offset start : Nat} {next : Option LayerKind} {frame : Frame}
  {checksum : Bytes → UInt16}

theorem capacity_of_sealTransport {sealed : Frame}
    (done : sealTransport frame start next checksum = .ok sealed) :
    sealed.capacity = frame.capacity := by
  unfold sealTransport at done
  split at done
  · cases done
    rfl
  · simp only at done
    split at done
    · cases done
      rfl
    · obtain ⟨cleared, first, done⟩ := bind_eq_ok.1 done
      obtain ⟨segment, -, last⟩ := bind_eq_ok.1 done
      exact (Frame.capacity_of_write last).trans (Frame.capacity_of_write first)

/-- A checksum is filled in where there is room for the accesses that this takes. -/
theorem exists_sealTransport_iff :
    (∃ sealed, sealTransport frame start next checksum = .ok sealed) ↔
      ∀ extent ∈ sealExtents start next frame.dataLen, extent.stop ≤ frame.capacity := by
  unfold sealTransport sealExtents
  cases transportField? next with
  | none => simp
  | some found =>
    rcases found with ⟨field, wire⟩
    by_cases short : frame.dataLen - start < field + 2
    · simp [short]
    · simp only [if_neg short, List.forall_mem_cons, List.not_mem_nil, false_imp_iff, implies_true,
        and_true, Extent.stop]
      constructor
      · rintro ⟨sealed, done⟩
        obtain ⟨cleared, first, done⟩ := bind_eq_ok.1 done
        obtain ⟨segment, read, -⟩ := bind_eq_ok.1 done
        -- Clearing the field leaves the room that there is for the segment.
        have segmentFits := Frame.inside_of_window read
        rw [Frame.capacity_of_write first] at segmentFits
        have fieldFits := Frame.exists_write_iff.1 ⟨cleared, first⟩
        exact ⟨fieldFits, segmentFits, fieldFits⟩
      · rintro ⟨fieldFits, segmentFits, -⟩
        obtain ⟨cleared, first⟩ :=
          (@Frame.exists_write_iff frame (start + field) [0, 0]).2 fieldFits
        have same := Frame.capacity_of_write first
        have read := Frame.window_eq (same ▸ segmentFits)
        have filled : ∀ sum : UInt16, ∃ sealed,
            cleared.write (start + field) (Bytes.ofUInt16 sum) = .ok sealed := by
          intro sum
          rw [Frame.exists_write_iff, same, Bytes.length_ofUInt16]
          exact fieldFits
        obtain ⟨sealed, last⟩ := filled _
        exact ⟨sealed, bind_eq_ok.2 ⟨cleared, first, bind_eq_ok.2 ⟨_, read, last⟩⟩⟩

/-- An IP layer needs room for its header besides. -/
theorem exists_sealed_iff {α : Type} [Header α] {header : α} :
    (∃ settled, (sealTransport frame start next checksum >>= fun sealed =>
        sealed.writeHeader offset header) = .ok settled) ↔
      ∀ extent ∈ sealExtents start next frame.dataLen ++ [⟨offset, Header.size α⟩],
        extent.stop ≤ frame.capacity := by
  rw [List.forall_mem_append, List.forall_mem_singleton, Extent.stop, ← exists_sealTransport_iff]
  constructor
  · rintro ⟨settled, done⟩
    -- The seal changes bytes only, so that the header has the room that it had before.
    obtain ⟨sealed, first, last⟩ := bind_eq_ok.1 done
    have fits := Frame.exists_writeHeader_iff.1 ⟨settled, last⟩
    rw [capacity_of_sealTransport first] at fits
    exact ⟨⟨sealed, first⟩, fits⟩
  · rintro ⟨⟨sealed, first⟩, fits⟩
    rw [← capacity_of_sealTransport first] at fits
    obtain ⟨settled, last⟩ := Frame.exists_writeHeader_iff.2 fits
    exact ⟨settled, bind_eq_ok.2 ⟨sealed, first, last⟩⟩

/-- The way back of a layer succeeds where no tag is repeated and there is room for all that it
accesses. -/
theorem exists_settle_iff :
    (∃ settled, layer.settle offset next frame = .ok settled) ↔
      layer.repeated? next = none ∧
        ∀ extent ∈ layer.backExtents offset next frame.dataLen, extent.stop ≤ frame.capacity := by
  cases layer with
  | ether _ | udp _ _ | tcp _ | vxlan _ =>
    rw [backExtents, List.forall_mem_singleton]
    exact Frame.exists_writeHeader_iff.trans (and_iff_right rfl).symm
  | vlan tag header =>
    rw [backExtents, List.forall_mem_singleton]
    -- The layer behind is looked at before anything is accessed.
    by_cases same : next = some tag.kind
    · simp [settle, repeated?, same]
    · simp only [settle, repeated?, if_neg same]
      exact Frame.exists_writeHeader_iff.trans (and_iff_right trivial).symm
  | ipv4 _ _ | ipv6 _ _ => exact exists_sealed_iff.trans (and_iff_right rfl).symm
  | echo | tsc _ | raw _ => simp [settle, repeated?, backExtents]
  | payload size fill =>
    simp only [settle, repeated?, backExtents]
    split
    · rw [List.forall_mem_singleton]
      exact Frame.exists_fill_iff.trans (and_iff_right trivial).symm
    · simp

/-- A segment that is long enough for its checksum ends with the bytes in use. -/
theorem inside_sealExtents (used : frame.dataLen ≤ frame.capacity) :
    ∀ extent ∈ sealExtents start next frame.dataLen, extent.stop ≤ frame.capacity := by
  unfold sealExtents
  cases transportField? next with
  | none => simp
  | some found =>
    rcases found with ⟨field, wire⟩
    by_cases short : frame.dataLen - start < field + 2
    · simp [short]
    · have segment : start + (frame.dataLen - start) = frame.dataLen := by omega
      have last : start + field + 2 ≤ frame.dataLen := by omega
      simp only [if_neg short, List.forall_mem_cons, List.not_mem_nil, false_imp_iff, implies_true,
        and_true, Extent.stop, segment]
      exact ⟨Nat.le_trans last used, used, Nat.le_trans last used⟩

/-- All that a layer accesses lies in its own room or among the bytes in use. -/
theorem inside_of_room (room : offset + layer.length ≤ frame.capacity)
    (used : frame.dataLen ≤ frame.capacity) :
    ∀ extent ∈ layer.backExtents offset next frame.dataLen, extent.stop ≤ frame.capacity := by
  have header : ∀ extent ∈ [Extent.mk offset layer.length], extent.stop ≤ frame.capacity :=
    List.forall_mem_singleton.2 room
  cases layer with
  | ether _ | vlan _ _ | udp _ _ | tcp _ | vxlan _ => exact header
  | ipv4 _ _ | ipv6 _ _ => exact List.forall_mem_append.2 ⟨inside_sealExtents used, header⟩
  | echo | tsc _ | raw _ => simp [backExtents]
  | payload size fill =>
    simp only [backExtents]
    split
    · rename_i grown
      rw [List.forall_mem_singleton, Extent.stop, Nat.add_sub_cancel' (Nat.le_of_lt grown.1)]
      exact used
    · simp

/-- In a frame with its length, which has room for the layer, the way back succeeds. -/
theorem settles_of_room (room : offset + layer.length ≤ frame.capacity)
    (used : frame.dataLen ≤ frame.capacity) (small : frame.dataLen ≤ 1514) :
    layer.Settles offset next frame where
  inside := inside_of_room room used
  settled := by
    cases repeats : layer.repeated? next with
    | none => exact .inl (exists_settle_iff.2 ⟨repeats, inside_of_room room used⟩)
    | some kind =>
      obtain ⟨tag, rfl, here, behind⟩ := repeated?_eq_some.1 repeats
      exact .inr ⟨tag, by rw [settle_eq room used, repeats], here, behind⟩
  counted := toNat_lengthField (by omega)

end Layer

/-! ## Slots -/

namespace Encoding

variable {verbose : Bool} {index : Nat} {tokens all : List LayerToken} {frame : Frame}

/-- The slots hold the layers in order, and the end of the frame behind them. -/
theorem slots_getElem? (inside : index ≤ all.length) :
    (slots all)[index]? = some (all.drop index).head? := by
  rw [slots, List.head?_drop]
  rcases Nat.lt_or_eq_of_le inside with within | rfl
  · rw [List.getElem?_append_left (by rwa [List.length_map]), List.getElem?_map,
      List.getElem?_eq_getElem within, Option.map_some]
  · rw [List.getElem?_append_right (Nat.le_of_eq (List.length_map _)), List.length_map,
      Nat.sub_self, List.getElem?_eq_none (Nat.le_of_eq rfl)]
    rfl

/-- From each layer there is a next slot. -/
theorem drop_succ_of_cons {token : LayerToken} {rest : List LayerToken}
    (here : all.drop index = token :: rest) :
    all.drop (index + 1) = rest ∧ index + 1 ≤ all.length := by
  have within : index < all.length := by
    by_contra behind
    rw [List.drop_eq_nil_of_le (Nat.le_of_not_lt behind)] at here
    cases here
  rw [List.drop_eq_getElem_cons within] at here
  exact ⟨(List.cons.inj here).2, within⟩

/-- The encoder that looks its layers up never looks behind the last slot.  It does what the encoder
does that takes them from a list. -/
theorem encodeSlots_eq (here : all.drop index = tokens) (inside : index ≤ all.length) :
    encodeSlots verbose (slots all) index frame = encodeLayers verbose index tokens frame := by
  induction tokens generalizing index frame with
  | nil =>
    have slot : (slots all)[index]? = some none := by
      rw [slots_getElem? inside, here, List.head?_nil]
    unfold encodeSlots
    -- Of the three answers of the look-up two are not those of this slot.
    split <;> rename_i found
    · cases found.symm.trans slot
    · rfl
    · cases found.symm.trans slot
  | cons token rest ih =>
    have slot : (slots all)[index]? = some (some token) := by
      rw [slots_getElem? inside, here, List.head?_cons]
    rcases drop_succ_of_cons here with ⟨next, within⟩
    unfold encodeSlots
    split <;> rename_i found
    · cases found.symm.trans slot
    · cases found.symm.trans slot
    · cases found.symm.trans slot
      cases read : Layer.ofToken token with
      | error e => exact (encodeLayers_of_unread read).symm
      | ok layer =>
        cases down : layer.place frame with
        | error e =>
          simp only [down]
          exact (encodeLayers_of_unplaced read down).symm
        | ok placed =>
          simp only [down]
          rw [encodeLayers_of_placed read down, ih next within]

/-- Every call finds its layers in the slots from its index on. -/
theorem Calls.drop_index {outer inner : Call} (calls : Calls outer inner)
    (here : all.drop outer.index = outer.tokens) (inside : outer.index ≤ all.length) :
    all.drop inner.index = inner.tokens ∧ inner.index ≤ all.length := by
  induction calls with
  | refl call => exact ⟨here, inside⟩
  | step read down behind ih =>
    rcases drop_succ_of_cons here with ⟨next, within⟩
    exact ih next within

end Encoding

/-! ## Calls -/

namespace Encoding

variable {verbose : Bool} {outer inner : Call}

/-- No call comes to a frame with more bytes in use than there are. -/
theorem Calls.used (calls : Calls outer inner)
    (used : outer.frame.dataLen ≤ outer.frame.capacity) :
    inner.frame.dataLen ≤ inner.frame.capacity := by
  induction calls with
  | refl call => exact used
  | step read down behind ih =>
    obtain ⟨room, rfl⟩ := Layer.place_eq_ok.1 down
    exact ih (Layer.used_placed room used)

/-- Once the call on the layers behind it has returned, a layer can be settled. -/
theorem settles_of_returned {index : Nat} {rest : List LayerToken} {layer : Layer}
    {frame placed : Frame} {next : Option LayerKind} (used : frame.dataLen ≤ frame.capacity)
    (down : layer.place frame = .ok placed)
    (returned : (encodeLayers verbose (index + 1) rest placed).result = .ok next) :
    layer.Settles frame.dataLen next (encodeLayers verbose (index + 1) rest placed).state := by
  obtain ⟨room, rfl⟩ := Layer.place_eq_ok.1 down
  -- The layers behind have been built, whatever happens to the layers in front.
  obtain ⟨layers, -, built, -⟩ := build_of_encodeLayers returned
  obtain ⟨innerUsed, -, header⟩ := Layer.build_behind room used built
  have bounds := Layer.dataLen_bounds_of_build built (Layer.used_placed room used)
  exact Layer.settles_of_room header innerUsed bounds.2

/-- Once a call has returned, the calls that it lies in can only fail for a repeated tag. -/
theorem Calls.fault_of_returned (calls : Calls outer inner)
    (used : outer.frame.dataLen ≤ outer.frame.capacity) {next : Option LayerKind}
    (returned : (inner.outcome verbose).result = .ok next) :
    (∃ next, (outer.outcome verbose).result = .ok next) ∨
      ∃ tag : VlanTag, (outer.outcome verbose).result = .error (.repeatedTag tag.kind) := by
  -- The induction goes from the inner call outwards, over the layers that are settled.
  induction calls with
  | refl call => exact .inl ⟨next, returned⟩
  | @step index token rest frame layer placed inner read down behind ih =>
    have placedUsed := (Calls.step read down (.refl _)).used used
    have left : (Call.outcome verbose ⟨index, token :: rest, frame⟩).result =
        ((encodeLayers verbose (index + 1) rest placed).andThen
          (leave verbose index layer frame.dataLen)).result := by
      rw [Call.outcome, encodeLayers_of_placed read down, Outcome.result_after]
    rw [left]
    simp only [Call.outcome] at ih returned
    rcases ih placedUsed returned with ⟨follower, fine⟩ | ⟨tag, failed⟩
    -- The layer is settled, or the call on the layers behind it has found a tag already.
    · rw [(Outcome.andThen_of_ok fine).1]
      rcases (settles_of_returned used down fine).settled with ⟨settled, back⟩ | ⟨tag, back, -⟩
      · exact .inl ⟨_, by rw [leave_of_ok back]⟩
      · exact .inr ⟨tag, by rw [leave_of_error back]⟩
    · exact .inr ⟨tag, (Outcome.andThen_of_error failed).1⟩

/-- No layer is at fault for how many there are. -/
theorem ne_tooManyLayers_of_encodeLayers {index : Nat} {tokens : List LayerToken} {frame : Frame}
    (used : frame.dataLen ≤ frame.capacity) (max : Nat) :
    (encodeLayers verbose index tokens frame).result ≠ .error (.tooManyLayers max) := by
  intro failed
  -- None of the three kinds of failure is about the number of layers.
  rcases fault_of_encodeLayers used failed with (misspelled | ⟨_, _, room⟩) | ⟨_, _, repeated, -⟩
  · exact misspelled.ne_tooManyLayers max rfl
  · cases room
  · cases repeated

end Encoding

/-! ## Descriptions -/

namespace Frame

/-- A description has too many layers only if its text has. -/
theorem encode_eq_tooManyLayers {config : Config} {frame : Frame} {max : Nat} :
    (frame.encode config).result = .error (.tooManyLayers max) ↔
      max = 31 ∧ 31 < (layerTexts frame.text).length := by
  constructor
  · intro failed
    cases found : (scan config.verbose frame.text).1 with
    | error e =>
      rw [encode_of_unscanned found] at failed
      cases failed
      rcases fault_of_scan found with ⟨same, many⟩ | misspelled
      · cases same
        exact ⟨rfl, many⟩
      · exact absurd rfl (misspelled.ne_tooManyLayers max)
    | ok tokens =>
      -- Layers that have been recognised are not counted any more.
      have stopped := (encode_eq_error found).1 failed
      exact absurd stopped (ne_tooManyLayers_of_encodeLayers (Nat.zero_le _) max)
  · rintro ⟨rfl, many⟩
    exact encode_of_many many

/-- The way back cannot fail, whatever the description and the capacity.  Too many layers are
counted in the text only, and no slot is looked up that is not there.  Once the call on the layers
behind a layer has returned, all that this layer still accesses lies in the buffer, and its lengths
fit into their fields.  Once any call has returned, the encoder can only fail for a repeated tag. -/
theorem wayBack_fits (config : Config) (frame : Frame) :
    (∀ max, (frame.encode config).result = .error (.tooManyLayers max) ↔
      max = 31 ∧ 31 < (layerTexts frame.text).length) ∧
    ∀ tokens, (scan config.verbose frame.text).1 = .ok tokens →
      encodeSlots config.verbose (slots tokens) 0 frame.reset =
        encodeLayers config.verbose 0 tokens frame.reset ∧
      ∀ call, Calls ⟨0, tokens, frame.reset⟩ call →
        (slots tokens)[call.index]? = some call.tokens.head? ∧
        (∀ token rest layer placed next, call.tokens = token :: rest →
          Layer.ofToken token = .ok layer → layer.place call.frame = .ok placed →
          (encodeLayers config.verbose (call.index + 1) rest placed).result = .ok next →
          layer.Settles call.frame.dataLen next
            (encodeLayers config.verbose (call.index + 1) rest placed).state) ∧
        ∀ next e, (call.outcome config.verbose).result = .ok next →
          (frame.encode config).result = .error e → ∃ tag : VlanTag, e = .repeatedTag tag.kind := by
  refine ⟨fun max => encode_eq_tooManyLayers, fun tokens scanned => ?_⟩
  have used : frame.reset.dataLen ≤ frame.reset.capacity := Nat.zero_le _
  refine ⟨encodeSlots_eq List.drop_zero (Nat.zero_le _), fun call calls => ⟨?_, ?_, ?_⟩⟩
  · obtain ⟨here, inside⟩ := @Calls.drop_index tokens _ _ calls List.drop_zero (Nat.zero_le _)
    rw [slots_getElem? inside, here]
  · intro token rest layer placed next _ _ down returned
    exact settles_of_returned (calls.used used) down returned
  · intro next e returned failed
    -- The encoder fails as the outermost call does, in which this one lies.
    have stopped := (encode_eq_error scanned).1 failed
    rcases calls.fault_of_returned used returned with ⟨answer, fine⟩ | ⟨tag, repeated⟩
    · cases stopped.symm.trans fine
    · cases stopped.symm.trans repeated
      exact ⟨tag, rfl⟩

/-- A repeated tag is found on the way back through a frame that fills its buffer. -/
theorem wayBack_fits_stack :
    let frame := Frame.new []
      "Dot1q()/Dot1q(vlan=2)/IPv4()/UDP()/Payload(len=68,fill=7)/Raw('late')".toList 68
    let first : Layer := .vlan .customer (.ofFields 1 7 false)
    let rest : List LayerToken := [⟨.dot1q, "(vlan=2)".toList⟩, ⟨.ipv4, "()".toList⟩,
      ⟨.udp, "()".toList⟩, ⟨.payload, "(len=68,fill=7)".toList⟩, ⟨.raw, "('late')".toList⟩]
    let inner := encodeLayers false 1 rest (first.placed frame.reset)
    (scan false frame.text).1 = .ok (⟨.dot1q, "()".toList⟩ :: rest) ∧
      inner.result = .ok (some .dot1q) ∧ inner.state.dataLen = frame.capacity ∧
      first.Settles 0 (some .dot1q) inner.state ∧
      (frame.encode {}).result = .error (.repeatedTag .dot1q) ∧
      ∃ tag : VlanTag, Error.repeatedTag .dot1q = .repeatedTag tag.kind := by
  intro frame first rest inner
  have scanned : (scan false frame.text).1 = .ok (⟨.dot1q, "()".toList⟩ :: rest) := by
    decide +kernel
  have read : Layer.ofToken ⟨.dot1q, "()".toList⟩ = .ok first := by decide +kernel
  have down : first.place frame.reset = .ok (first.placed frame.reset) :=
    Layer.place_eq (by decide)
  have returned : inner.result = .ok (some .dot1q) := by decide +kernel
  have full : inner.state.dataLen = frame.capacity := by decide +kernel
  have failed : (frame.encode {}).result = .error (.repeatedTag .dot1q) := by decide +kernel
  obtain ⟨-, within⟩ := wayBack_fits {} frame
  obtain ⟨-, calls⟩ := within _ scanned
  obtain ⟨-, settles, -⟩ := calls _ (.refl _)
  obtain ⟨-, -, fault⟩ := calls ⟨1, rest, first.placed frame.reset⟩ (.step read down (.refl _))
  exact ⟨scanned, returned, full, settles _ _ _ _ _ rfl read down returned, failed,
    fault _ _ returned failed⟩

end Frame

end FrameText
