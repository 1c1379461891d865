import FrameText.Header.Basic
import FrameText.Limits

/-!
# Frames

A frame is a named description and the buffer that its bytes are built in.  The buffer has a fixed
capacity; the bytes in use are those at its start, and bytes behind them may be left over from
before.  Besides the bytes, a frame records where its first headers and its last timestamp marker
stand.
-/

namespace FrameText

/-- Where a header stands in a frame. -/
structure Extent where
  offset : Nat
  length : Nat
  deriving DecidableEq, Repr

/-- First byte behind the header. -/
def Extent.stop (extent : Extent) : Nat :=
  extent.offset + extent.length

/-- A named description and the buffer that its bytes are built in. -/
structure Frame where
  name : Text
  text : Text
  buffer : Bytes
  /-- Number of bytes in use. -/
  dataLen : Nat
  tscOffset : Option Nat
  /-- Outer Ethernet header and the VLAN tags directly behind it. -/
  l2 : Option Extent
  /-- First IP header. -/
  l3 : Option Extent
  /-- First UDP or TCP header. -/
  l4 : Option Extent
  deriving DecidableEq, Repr

namespace Frame

/-- An empty frame with a buffer of zero bytes. -/
def new (name text : Text) (capacity : Nat) : Frame where
  name := name
  text := text
  buffer := List.replicate capacity 0
  dataLen := 0
  tscOffset := none
  l2 := none
  l3 := none
  l4 := none

/-- Number of bytes that the frame has room for. -/
def capacity (frame : Frame) : Nat :=
  frame.buffer.length

/-- The bytes in use. -/
def data (frame : Frame) : Bytes :=
  frame.buffer.take frame.dataLen

/-- Length on the wire, with the frame check sequence. -/
def wireLength (frame : Frame) : Nat :=
  frame.dataLen + Limits.checkLength

/-- The frame as it was when it was new. -/
def reset (frame : Frame) : Frame :=
  new frame.name frame.text frame.capacity

/-! ## Checked access -/

/-- Changes the number of bytes in use. -/
def setLength (frame : Frame) (length : Nat) : Except Error Frame :=
  if frame.capacity < length then
    .error (.bufferOverflow length frame.capacity)
  else
    .ok { frame with dataLen := length }

/-- The `length` bytes of the buffer at `offset`.  What is asked for is counted in 64 bits. -/
def window (frame : Frame) (offset length : Nat) : Except Error Bytes :=
  if frame.capacity < offset + length then
    .error (.bufferOverflow (min (offset + length) (Limits.wordBound - 1)) frame.capacity)
  else
    .ok (Bytes.slice frame.buffer offset length)

/-- Replaces the `length` bytes of the buffer at `offset` by what `change` makes of them. -/
def modifyWindow (frame : Frame) (offset length : Nat) (change : Bytes → Except Error Bytes) :
    Except Error Frame := do
  let new ← change (← frame.window offset length)
  return { frame with buffer := Bytes.overwrite frame.buffer offset new }

/-- Writes bytes at `offset`. -/
def write (frame : Frame) (offset : Nat) (bytes : Bytes) : Except Error Frame :=
  frame.modifyWindow offset bytes.length fun _ => .ok bytes

/-- Writes a header at `offset`. -/
def writeHeader {α : Type} [Header α] (frame : Frame) (offset : Nat) (header : α) :
    Except Error Frame :=
  frame.modifyWindow offset (Header.size α) (Header.writeTo header)

/-- Fills `length` bytes at `offset`. -/
def fill (frame : Frame) (offset length : Nat) (byte : UInt8) : Except Error Frame :=
  frame.modifyWindow offset length fun window => .ok (List.replicate window.length byte)

/-- Replaces the contents by captured bytes.  The description stays; what was recorded about the
headers is forgotten, since it no longer describes the data. -/
def loadBytes (frame : Frame) (bytes : Bytes) : Except Error Frame :=
  if frame.capacity < bytes.length then
    .error (.bufferOverflow bytes.length frame.capacity)
  else
    .ok { frame.reset with
      buffer := Bytes.overwrite frame.reset.buffer 0 bytes
      dataLen := bytes.length }

/-! ## Recorded headers -/

/-- Records the outer Ethernet header. -/
def recordL2 (frame : Frame) (extent : Extent) : Frame :=
  { frame with l2 := frame.l2 <|> some extent }

/-- Records the first IP header. -/
def recordL3 (frame : Frame) (extent : Extent) : Frame :=
  { frame with l3 := frame.l3 <|> some extent }

/-- Records the first transport header. -/
def recordL4 (frame : Frame) (extent : Extent) : Frame :=
  { frame with l4 := frame.l4 <|> some extent }

/-- Counts a VLAN tag with the outer Ethernet header if it stands directly behind it. -/
def extendL2 (frame : Frame) (offset length : Nat) : Frame :=
  { frame with
    l2 := frame.l2.map fun extent =>
      if extent.stop = offset then { extent with length := extent.length + length } else extent }

end Frame

end FrameText
