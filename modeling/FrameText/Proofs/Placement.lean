import FrameText.Encoding
import FrameText.Proofs.Bytes
import FrameText.Proofs.Results

/-!
# Placement — one layer in a frame

Both ways of a layer through a frame, each as one equation:

* `Layer.place_eq` — on the way down a layer writes `Layer.early` behind the bytes in use;
* `Layer.settle_eq_ok` — on the way back it writes `Layer.headerBytes` where it was placed, and an
  IP layer also treats the bytes behind its header by `sealTail`.

Neither can fail where the frame has room for the layer, but for a VLAN tag that is repeated.
-/

namespace FrameText

/-! ## Access to the buffer -/

namespace Frame

variable {frame changed : Frame} {offset : Nat}

@[simp] theorem capacity_withBuffer (frame : Frame) (buffer : Bytes) :
    ({ frame with buffer := buffer } : Frame).capacity = buffer.length := rfl

theorem window_eq {length : Nat} (fits : offset + length ≤ frame.capacity) :
    frame.window offset length = .ok (Bytes.slice frame.buffer offset length) := by
  rw [window, if_neg (by omega)]

theorem write_eq {bytes : Bytes} (fits : offset + bytes.length ≤ frame.capacity) :
    frame.write offset bytes =
      .ok { frame with buffer := Bytes.overwrite frame.buffer offset bytes } := by
  rw [write, modifyWindow, window_eq fits]
  rfl

theorem fill_eq {length : Nat} {byte : UInt8} (fits : offset + length ≤ frame.capacity) :
    frame.fill offset length byte =
      .ok { frame with
        buffer := Bytes.overwrite frame.buffer offset (List.replicate length byte) } := by
  have exactly : (Bytes.slice frame.buffer offset length).length = length :=
    Bytes.length_slice fits
  rw [fill, modifyWindow, window_eq fits]
  simp only [bind, Except.bind, pure, Except.pure, exactly]

theorem writeHeader_eq {α : Type} [Header α] {header : α}
    (fits : offset + Header.size α ≤ frame.capacity) :
    frame.writeHeader offset header =
      .ok { frame with buffer := Bytes.overwrite frame.buffer offset (Header.put header) } := by
  have exactly : (Bytes.slice frame.buffer offset (Header.size α)).length = Header.size α :=
    Bytes.length_slice fits
  have written : Header.writeTo header (Bytes.slice frame.buffer offset (Header.size α)) =
      .ok (Header.put header) := by
    rw [Header.writeTo, exactly, if_neg (Nat.lt_irrefl _), Bytes.overwrite, Header.length_put,
      List.take_zero, List.drop_eq_nil_of_le (by omega), List.append_nil, List.nil_append]
  rw [writeHeader, modifyWindow, window_eq fits]
  simp only [bind, Except.bind, pure, Except.pure, written]

theorem setLength_eq_ok {length : Nat} :
    frame.setLength length = .ok changed ↔
      length ≤ frame.capacity ∧ changed = { frame with dataLen := length } := by
  unfold setLength
  split
  · constructor
    · intro h
      cases h
    · rintro ⟨fits, -⟩
      omega
  · constructor
    · intro h
      cases h
      exact ⟨by omega, rfl⟩
    · rintro ⟨-, rfl⟩
      rfl

end Frame

/-! ## The way down -/

namespace Layer

/-- The bytes that a layer writes on the way down. -/
def early (layer : Layer) (offset : Nat) : Bytes :=
  match layer with
  | tsc header => Header.put header
  | raw bytes => bytes
  | payload size fill => List.replicate (size.target offset - offset) fill
  | _ => []

/-- The frame with a layer placed behind its bytes in use. -/
def placed (layer : Layer) (frame : Frame) : Frame :=
  { layer.record frame.dataLen { frame with dataLen := layer.target frame.dataLen } with
    buffer := Bytes.overwrite frame.buffer frame.dataLen (layer.early frame.dataLen) }

/-- Recording a header changes neither the bytes nor their number. -/
theorem record_bytes (layer : Layer) (offset : Nat) (frame : Frame) :
    (layer.record offset frame).buffer = frame.buffer ∧
      (layer.record offset frame).dataLen = frame.dataLen := by
  cases layer <;> exact ⟨rfl, rfl⟩

/-- What a layer writes on the way down fits into the room that it makes. -/
theorem length_early (layer : Layer) (offset : Nat) :
    offset + (layer.early offset).length ≤ max offset (layer.target offset) := by
  cases layer with
  | tsc header =>
    have := Header.length_put header
    simp only [early, target, length, this]
    omega
  | payload size fill =>
    simp only [early, target, List.length_replicate]
    omega
  | _ =>
    simp only [early, target, length, List.length_nil]
    omega

/-- A layer can be placed where the buffer has room for it. -/
theorem place_eq {layer : Layer} {frame : Frame}
    (room : layer.target frame.dataLen ≤ frame.capacity) :
    layer.place frame = .ok (layer.placed frame) := by
  have grown : frame.setLength (layer.target frame.dataLen) =
      .ok { frame with dataLen := layer.target frame.dataLen } :=
    Frame.setLength_eq_ok.2 ⟨room, rfl⟩
  rw [place, grown]
  cases layer with
  | tsc header => exact Frame.writeHeader_eq room
  | raw bytes => exact Frame.write_eq room
  | payload size fill =>
    by_cases grows : frame.dataLen < size.target frame.dataLen
    · have fits : frame.dataLen + (size.target frame.dataLen - frame.dataLen) ≤ frame.capacity := by
        rw [Nat.add_sub_cancel' (Nat.le_of_lt grows)]
        exact room
      have filled := @Frame.fill_eq
        { frame with dataLen := (payload size fill).target frame.dataLen } _ _ fill fits
      simp only [bind, Except.bind, inscribe, record, if_pos grows, filled]
      rfl
    · have nothing : size.target frame.dataLen - frame.dataLen = 0 := by omega
      simp only [bind, Except.bind, inscribe, record, if_neg grows, placed, early, nothing,
        List.replicate_zero, Bytes.overwrite_nil]
  | _ => simp [bind, Except.bind, inscribe, placed, early, Bytes.overwrite_nil, record,
      Frame.recordL2, Frame.recordL3, Frame.recordL4, Frame.extendL2]

theorem place_eq_ok {layer : Layer} {frame placed : Frame} :
    layer.place frame = .ok placed ↔
      layer.target frame.dataLen ≤ frame.capacity ∧ placed = layer.placed frame := by
  constructor
  · intro h
    rcases bind_eq_ok.1 h with ⟨grown, sized, -⟩
    have room := (Frame.setLength_eq_ok.1 sized).1
    rw [place_eq room] at h
    cases h
    exact ⟨room, rfl⟩
  · rintro ⟨room, rfl⟩
    exact place_eq room

/-- Placing a layer changes neither the name nor the description of a frame. -/
theorem label_placed (layer : Layer) (frame : Frame) :
    (layer.placed frame).name = frame.name ∧ (layer.placed frame).text = frame.text := by
  cases layer <;> exact ⟨rfl, rfl⟩

@[simp] theorem dataLen_placed (layer : Layer) (frame : Frame) :
    (layer.placed frame).dataLen = layer.target frame.dataLen :=
  (layer.record_bytes _ _).2

@[simp] theorem buffer_placed (layer : Layer) (frame : Frame) :
    (layer.placed frame).buffer =
      Bytes.overwrite frame.buffer frame.dataLen (layer.early frame.dataLen) := rfl

/-- Placing a layer keeps the capacity. -/
theorem capacity_placed {layer : Layer} {frame : Frame}
    (room : layer.target frame.dataLen ≤ frame.capacity) (used : frame.dataLen ≤ frame.capacity) :
    (layer.placed frame).capacity = frame.capacity := by
  have fits := layer.length_early frame.dataLen
  exact Bytes.length_overwrite (by rw [Frame.capacity] at *; omega)

/-! ## The way back -/

/-- The bytes of a layer's header once the layers behind it are known; `length` counts the bytes
from the header to the end of the frame.  A transport layer leaves its checksum to the IP layer in
front, and layers that are complete on the way down write nothing more. -/
def headerBytes (layer : Layer) (next : Option LayerKind) (length : Nat) : Option Bytes :=
  match layer with
  | ether header =>
    some (Header.put { header with
      etherType := (EtherType.ofFollower? next).getD (.custom EtherType.placeholder) })
  | vlan _ header =>
    some (Header.put { header with etherType := (EtherType.ofFollower? next).getD (.custom 0) })
  | ipv4 header protocol => some (Header.put (finishIPv4 header protocol next length))
  | ipv6 header protocol =>
    some (Header.put (finishIPv6 header protocol next (length - Header.size IPv6Header)))
  | udp sourcePort destinationPort =>
    some (Header.put (finishUdp sourcePort destinationPort next length))
  | tcp header => some (Header.put header)
  | vxlan header =>
    some (Header.put { header with
      nextProtocol :=
        if next = some LayerKind.ether then VxlanHeader.nextEthernet else header.nextProtocol })
  | echo | tsc _ | raw _ | payload _ _ => none

/-- The checksum that an IP layer computes over the segment behind it. -/
def segmentSum? (layer : Layer) (next : Option LayerKind) : Option (Bytes → UInt16) :=
  match layer with
  | ipv4 header protocol =>
    some (Checksum.overIPv4 header.source header.destination
      ((IpProtocol.ofFollower? next).getD (protocol.getD (.custom 0))).toUInt8)
  | ipv6 header protocol =>
    some (Checksum.overIPv6 header.source header.destination
      ((IpProtocol.ofFollower? next).getD
        (protocol.getD (.custom IpProtocol.noNextHeader))).toUInt8)
  | _ => none

/-- Where a layer fills in the checksum of the transport layer behind it, and the checksum that it
fills in, if it does. -/
def sealing? (layer : Layer) (next : Option LayerKind) : Option (Nat × (Bytes → UInt16)) :=
  match layer.segmentSum? next, transportField? next with
  | some sum, some (field, wire) => some (field, fun segment => wire (sum segment))
  | _, _ => none

/-- The bytes behind an IP header with the checksum filled in.  Of these bytes the first `count`
belong to the frame. -/
def sealTail (sealing : Option (Nat × (Bytes → UInt16))) (count : Nat) (tail : Bytes) : Bytes :=
  match sealing with
  | none => tail
  | some (field, sum) =>
    if count < field + 2 then
      tail
    else
      Bytes.overwrite tail field
        (Bytes.ofUInt16 (sum ((Bytes.overwrite tail field [0, 0]).take count)))

/-- The tag that a layer must not have behind it. -/
def repeated? (layer : Layer) (next : Option LayerKind) : Option LayerKind :=
  match layer with
  | vlan tag _ => if next = some tag.kind then some tag.kind else none
  | _ => none

/-- The buffer after the way back. -/
def settledBuffer (layer : Layer) (offset : Nat) (next : Option LayerKind) (dataLen : Nat)
    (buffer : Bytes) : Bytes :=
  match layer with
  | payload size fill =>
    if size.target offset < dataLen ∧ fill ≠ 0 then
      Bytes.overwrite buffer (size.target offset)
        (List.replicate (dataLen - size.target offset) fill)
    else
      buffer
  | _ =>
    buffer.take offset ++
      ((layer.headerBytes next (dataLen - offset)).getD
          (Bytes.slice buffer offset layer.length) ++
        sealTail (layer.sealing? next) (dataLen - (offset + layer.length))
          (buffer.drop (offset + layer.length)))

/-- Sealing changes no length. -/
theorem length_sealTail {sealing : Option (Nat × (Bytes → UInt16))} {count : Nat} {tail : Bytes}
    (fits : count ≤ tail.length) : (sealTail sealing count tail).length = tail.length := by
  cases sealing with
  | none => rfl
  | some plan =>
    rcases plan with ⟨field, sum⟩
    by_cases short : count < field + 2
    · rw [sealTail, if_pos short]
    · rw [sealTail, if_neg short]
      exact Bytes.length_overwrite (by rw [Bytes.length_ofUInt16]; omega)

/-- The checksum of a segment can be filled in wherever the segment starts. -/
theorem sealTransport_eq {frame : Frame} {start : Nat} {next : Option LayerKind}
    {checksum : Bytes → UInt16} (used : frame.dataLen ≤ frame.capacity) :
    sealTransport frame start next checksum =
      .ok { frame with
        buffer := frame.buffer.take start ++
          sealTail ((transportField? next).map fun plan => (plan.1, fun s => plan.2 (checksum s)))
            (frame.dataLen - start) (frame.buffer.drop start) } := by
  have lengthZeros : ([0, 0] : Bytes).length = 2 := rfl
  unfold sealTransport
  cases plan : transportField? next with
  | none => simp [sealTail, List.take_append_drop]
  | some found =>
    rcases found with ⟨field, wire⟩
    simp only [Option.map_some, sealTail]
    by_cases short : frame.dataLen - start < field + 2
    · simp only [if_pos short, List.take_append_drop]
    · have inside : start + field + 2 ≤ frame.buffer.length := by
        rw [Frame.capacity] at *
        omega
      -- The field is cleared, then the segment is read, then the field is written.
      have cleared := @Frame.write_eq frame (start + field) [0, 0] inside
      have length : (Bytes.overwrite frame.buffer (start + field) [0, 0]).length =
          frame.buffer.length :=
        Bytes.length_overwrite inside
      have segment : Bytes.slice (Bytes.overwrite frame.buffer (start + field) [0, 0]) start
          (frame.dataLen - start) =
          (Bytes.overwrite (frame.buffer.drop start) field [0, 0]).take
            (frame.dataLen - start) := by
        rw [Bytes.slice, Bytes.drop_overwrite_add (by omega)]
      rw [if_neg short, if_neg short, cleared]
      simp only [bind, Except.bind]
      rw [Frame.window_eq (by rw [Frame.capacity_withBuffer, length, ← Frame.capacity]; omega)]
      simp only [segment]
      rw [Frame.write_eq (by rw [Frame.capacity_withBuffer, length, Bytes.length_ofUInt16]; omega)]
      rw [Bytes.overwrite_overwrite (by rw [lengthZeros, Bytes.length_ofUInt16]) (by omega)]
      generalize Bytes.ofUInt16 _ = sum
      rw [@Bytes.overwrite_add frame.buffer sum start field (by omega)]

/-- A buffer to whose start nothing but a header and a seal is added. -/
theorem settledBuffer_of_headerBytes {layer : Layer} {offset : Nat} {next : Option LayerKind}
    {dataLen : Nat} {buffer header : Bytes} (sized : layer.length = header.length)
    (written : layer.headerBytes next (dataLen - offset) = some header)
    (room : offset + layer.length ≤ buffer.length) :
    layer.settledBuffer offset next dataLen buffer =
      Bytes.overwrite
        (buffer.take (offset + layer.length) ++
          sealTail (layer.sealing? next) (dataLen - (offset + layer.length))
            (buffer.drop (offset + layer.length))) offset header := by
  have front : (buffer.take (offset + layer.length)).length = offset + layer.length := by
    rw [List.length_take, Nat.min_eq_left room]
  have settled : layer.settledBuffer offset next dataLen buffer =
      buffer.take offset ++
        ((layer.headerBytes next (dataLen - offset)).getD
            (Bytes.slice buffer offset layer.length) ++
          sealTail (layer.sealing? next) (dataLen - (offset + layer.length))
            (buffer.drop (offset + layer.length))) := by
    cases layer with
    | payload size fill => simp [headerBytes] at written
    | _ => rfl
  -- The header lies in front of the sealed bytes, so that the order of the two writes is free.
  have covered : (buffer.take (offset + layer.length)).drop (offset + layer.length) = [] :=
    List.drop_eq_nil_of_le (by omega)
  rw [settled, written, Option.getD_some, Bytes.overwrite, ← sized,
    List.take_append_of_le_length (by omega), List.take_take, Nat.min_eq_left (by omega),
    List.drop_append_of_le_length (by omega), covered, List.nil_append, List.append_assoc]

section Settling

variable {α : Type} [Header α] {layer : Layer} {offset : Nat} {next : Option LayerKind}
  {frame : Frame} {header : α}

/-- The way back of a layer that only writes its header. -/
theorem writeHeader_settled (room : offset + layer.length ≤ frame.capacity)
    (sized : layer.length = Header.size α)
    (written : layer.headerBytes next (frame.dataLen - offset) = some (Header.put header))
    (unsealed : layer.sealing? next = none) :
    frame.writeHeader offset header = .ok { frame with
      buffer := layer.settledBuffer offset next frame.dataLen frame.buffer } := by
  rw [settledBuffer_of_headerBytes (by rw [Header.length_put, sized]) written room, unsealed,
    sealTail, List.take_append_drop, Frame.writeHeader_eq (by rw [← sized]; exact room)]

/-- The way back of an IP layer. -/
theorem sealTransport_settled {checksum : Bytes → UInt16}
    (room : offset + layer.length ≤ frame.capacity) (used : frame.dataLen ≤ frame.capacity)
    (sized : layer.length = Header.size α)
    (written : layer.headerBytes next (frame.dataLen - offset) = some (Header.put header))
    (sum : layer.segmentSum? next = some checksum) :
    (sealTransport frame (offset + Header.size α) next checksum >>=
        fun frame => frame.writeHeader offset header) =
      .ok { frame with
        buffer := layer.settledBuffer offset next frame.dataLen frame.buffer } := by
  -- The sum and the field where it goes come together in the seal.
  have plan : layer.sealing? next =
      (transportField? next).map fun plan => (plan.1, fun s => plan.2 (checksum s)) := by
    unfold sealing?
    rw [sum]
    cases transportField? next <;> rfl
  rw [← sized, sealTransport_eq used, ← plan]
  simp only [bind, Except.bind]
  have length : (frame.buffer.take (offset + layer.length) ++
      sealTail (layer.sealing? next) (frame.dataLen - (offset + layer.length))
        (frame.buffer.drop (offset + layer.length))).length = frame.buffer.length := by
    rw [List.length_append, length_sealTail (by rw [List.length_drop, ← Frame.capacity]; omega),
      ← List.length_append, List.take_append_drop]
  rw [settledBuffer_of_headerBytes (by rw [Header.length_put, sized]) written room,
    Frame.writeHeader_eq (by rw [Frame.capacity_withBuffer, length, ← sized]; exact room)]

end Settling

/-- On the way back a layer can fail only by a repeated tag. -/
theorem settle_eq {layer : Layer} {offset : Nat} {next : Option LayerKind} {frame : Frame}
    (room : offset + layer.length ≤ frame.capacity) (used : frame.dataLen ≤ frame.capacity) :
    layer.settle offset next frame =
      match layer.repeated? next with
      | some tag => .error (.repeatedTag tag)
      | none =>
        .ok { frame with
          buffer := layer.settledBuffer offset next frame.dataLen frame.buffer } := by
  cases layer with
  | ether header => exact writeHeader_settled room rfl rfl rfl
  | vlan tag header =>
    by_cases same : next = some tag.kind
    · simp only [settle, repeated?, if_pos same]
    · simp only [settle, repeated?, if_neg same]
      exact writeHeader_settled room rfl rfl rfl
  | ipv4 header protocol => exact sealTransport_settled room used rfl rfl rfl
  | ipv6 header protocol =>
    have written : (ipv6 header protocol).headerBytes next (frame.dataLen - offset) =
        some (Header.put (finishIPv6 header protocol next
          (frame.dataLen - (offset + Header.size IPv6Header)))) := by
      rw [headerBytes, Nat.sub_sub]
    exact sealTransport_settled room used rfl written rfl
  | udp sourcePort destinationPort => exact writeHeader_settled room rfl rfl rfl
  | tcp header => exact writeHeader_settled room rfl rfl rfl
  | vxlan header => exact writeHeader_settled room rfl rfl rfl
  | payload size fill =>
    simp only [settle, repeated?, settledBuffer]
    split
    · rename_i grown
      exact Frame.fill_eq (by omega)
    · rfl
  | echo | tsc header | raw bytes =>
    simp only [settle, repeated?, settledBuffer, headerBytes, Option.getD_none, sealing?,
      segmentSum?, sealTail, Bytes.take_append_slice_append_drop]

/-- The way back of a layer succeeds where no tag is repeated. -/
theorem settle_eq_ok {layer : Layer} {offset : Nat} {next : Option LayerKind}
    {frame settled : Frame}
    (room : offset + layer.length ≤ frame.capacity) (used : frame.dataLen ≤ frame.capacity) :
    layer.settle offset next frame = .ok settled ↔
      layer.repeated? next = none ∧
        settled = { frame with
          buffer := layer.settledBuffer offset next frame.dataLen frame.buffer } := by
  rw [settle_eq room used]
  cases layer.repeated? next with
  | some tag =>
    constructor
    · intro impossible
      cases impossible
    · rintro ⟨impossible, -⟩
      cases impossible
  | none =>
    constructor
    · intro done
      cases done
      exact ⟨rfl, rfl⟩
    · rintro ⟨-, rfl⟩
      rfl

/-! ### What the way back leaves alone -/

section Kept

variable {layer : Layer} {offset dataLen : Nat} {next : Option LayerKind} {buffer : Bytes}

/-- A payload has no header, and all that it does on the way back is to fill the end of the
frame. -/
def isPayload : Layer → Bool
  | payload _ _ => true
  | _ => false

/-- The three parts of the buffer after the way back of a layer that is no payload. -/
theorem settledBuffer_eq (header : layer.isPayload = false) :
    layer.settledBuffer offset next dataLen buffer =
      buffer.take offset ++
        ((layer.headerBytes next (dataLen - offset)).getD
            (Bytes.slice buffer offset layer.length) ++
          sealTail (layer.sealing? next) (dataLen - (offset + layer.length))
            (buffer.drop (offset + layer.length))) := by
  cases layer with
  | payload size fill => cases header
  | _ => rfl

/-- A header is as long as the layer that it belongs to. -/
theorem length_headerBytes {length : Nat} {bytes : Bytes}
    (written : layer.headerBytes next length = some bytes) : bytes.length = layer.length := by
  cases layer
  all_goals
    simp only [headerBytes, Option.some.injEq, reduceCtorEq] at written
  all_goals
    rw [← written, Header.length_put]
    rfl

theorem length_getD_headerBytes (length : Nat) (room : offset + layer.length ≤ buffer.length) :
    ((layer.headerBytes next length).getD (Bytes.slice buffer offset layer.length)).length =
      layer.length := by
  cases written : layer.headerBytes next length with
  | none => exact Bytes.length_slice room
  | some bytes => exact length_headerBytes written

/-- The way back changes no length. -/
theorem length_settledBuffer (room : offset + layer.length ≤ buffer.length)
    (used : dataLen ≤ buffer.length) :
    (layer.settledBuffer offset next dataLen buffer).length = buffer.length := by
  cases payload : layer.isPayload with
  | true =>
    cases layer with
    | payload size fill =>
      simp only [settledBuffer]
      split
      · exact Bytes.length_overwrite (by rw [List.length_replicate]; omega)
      · rfl
    | _ => cases payload
  | false =>
    rw [settledBuffer_eq payload, List.length_append, List.length_append,
      length_getD_headerBytes _ room, length_sealTail (by rw [List.length_drop]; omega),
      List.length_take, List.length_drop]
    omega

/-- The bytes in front of a layer stay as they are. -/
theorem take_settledBuffer {count : Nat} (inFront : count ≤ offset)
    (grown : count ≤ layer.target offset) (room : offset + layer.length ≤ buffer.length)
    (used : dataLen ≤ buffer.length) :
    (layer.settledBuffer offset next dataLen buffer).take count = buffer.take count := by
  cases payload : layer.isPayload with
  | true =>
    cases layer with
    | payload size fill =>
      simp only [settledBuffer]
      split
      · rename_i longer
        exact Bytes.take_overwrite grown (by omega)
      · rfl
    | _ => cases payload
  | false =>
    rw [settledBuffer_eq payload,
      List.take_append_of_le_length (by rw [List.length_take]; omega), List.take_take,
      Nat.min_eq_left inFront]

/-- The bytes from a layer on. -/
theorem drop_settledBuffer (header : layer.isPayload = false)
    (room : offset + layer.length ≤ buffer.length) :
    (layer.settledBuffer offset next dataLen buffer).drop offset =
      (layer.headerBytes next (dataLen - offset)).getD (Bytes.slice buffer offset layer.length) ++
        sealTail (layer.sealing? next) (dataLen - (offset + layer.length))
          (buffer.drop (offset + layer.length)) := by
  have front : (buffer.take offset).length = offset := by
    rw [List.length_take]
    omega
  rw [settledBuffer_eq header, List.drop_append_of_le_length (by omega),
    List.drop_eq_nil_of_le (by omega), List.nil_append]

/-- The bytes behind a header are changed by its seal only. -/
theorem drop_settledBuffer_behind (header : layer.isPayload = false)
    (room : offset + layer.length ≤ buffer.length) :
    (layer.settledBuffer offset next dataLen buffer).drop (offset + layer.length) =
      sealTail (layer.sealing? next) (dataLen - (offset + layer.length))
        (buffer.drop (offset + layer.length)) := by
  have length := @length_getD_headerBytes layer offset next buffer (dataLen - offset) room
  rw [← List.drop_drop, drop_settledBuffer header room, List.drop_append_of_le_length (by omega),
    List.drop_eq_nil_of_le (by omega), List.nil_append]

end Kept

end Layer

end FrameText
