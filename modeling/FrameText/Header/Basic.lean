import FrameText.Bytes
import FrameText.Error

/-!
# Headers of fixed layout

A header type says which layer it belongs to, how long it is, and how its fields stand in network
byte order.  On top of that, `Header.writeTo` and `Header.readFrom` write into and read from the
start of a window, and refuse a window that is too short.
-/

namespace FrameText

namespace Bytes

/-! ## Words in network byte order -/

/-- The two bytes of a word. -/
def ofUInt16 (w : UInt16) : Bytes := beBytes 2 w.toNat

/-- The four bytes of a word. -/
def ofUInt32 (w : UInt32) : Bytes := beBytes 4 w.toNat

/-- The eight bytes of a word. -/
def ofUInt64 (w : UInt64) : Bytes := beBytes 8 w.toNat

@[simp] theorem length_ofUInt16 (w : UInt16) : (ofUInt16 w).length = 2 := length_beBytes _ _

@[simp] theorem length_ofUInt32 (w : UInt32) : (ofUInt32 w).length = 4 := length_beBytes _ _

@[simp] theorem length_ofUInt64 (w : UInt64) : (ofUInt64 w).length = 8 := length_beBytes _ _

/-- The byte at an offset. -/
def uint8At (bytes : Bytes) (offset : Nat) : UInt8 := UInt8.ofNat (field bytes offset 1)

/-- The two-byte word at an offset. -/
def uint16At (bytes : Bytes) (offset : Nat) : UInt16 := UInt16.ofNat (field bytes offset 2)

/-- The four-byte word at an offset. -/
def uint32At (bytes : Bytes) (offset : Nat) : UInt32 := UInt32.ofNat (field bytes offset 4)

/-- The eight-byte word at an offset. -/
def uint64At (bytes : Bytes) (offset : Nat) : UInt64 := UInt64.ofNat (field bytes offset 8)

end Bytes

/-- A protocol header of fixed layout. -/
class Header (α : Type) where
  /-- The layer that error messages name. -/
  kind : LayerKind
  /-- Length on the wire. -/
  size : Nat
  /-- The fields in network byte order. -/
  put : α → Bytes
  /-- The fields found at the start of at least `size` bytes. -/
  get : Bytes → α
  /-- Every header has the length of its type. -/
  length_put : ∀ header, (put header).length = size

namespace Header

variable {α : Type} [Header α]

/-- The window with the header written at its start. -/
def writeTo (header : α) (window : Bytes) : Except Error Bytes :=
  if window.length < size α then
    .error (.bufferOverflow (size α) window.length)
  else
    .ok (Bytes.overwrite window 0 (put header))

/-- The header at the start of the data. -/
def readFrom (α : Type) [Header α] (data : Bytes) : Except Error α :=
  if data.length < size α then
    .error (.truncated (kind α) (size α) data.length)
  else
    .ok (get data)

end Header

end FrameText
