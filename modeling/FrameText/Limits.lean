import FrameText.Text.Basic

/-!
# Limits

Sizes and counts that bound frames and their descriptions, and the numbers that the layers of a
frame refer to each other by.
-/

namespace FrameText

namespace Limits

/-- Most layers in a frame description; one slot of 32 belongs to the end of the frame. -/
def maxLayers : Nat := 31

/-- Most parameters of one layer. -/
def maxParams : Nat := 16

/-- Most UTF-8 bytes of a stored frame description. -/
def maxTextLength : Nat := 4096

/-- Most UTF-8 bytes of a frame name. -/
def maxNameLength : Nat := 32

/-- Length of the frame check sequence, which is on the wire but not in the buffer. -/
def checkLength : Nat := 4

/-- Shortest Ethernet frame on the wire. -/
def minWireLength : Nat := 64

/-- Longest Ethernet frame on the wire. -/
def maxWireLength : Nat := 1518

/-- Shortest Ethernet frame in the buffer. -/
def minFrameLength : Nat := minWireLength - checkLength

/-- Longest Ethernet frame in the buffer. -/
def maxFrameLength : Nat := maxWireLength - checkLength

/-- Capacity of a frame buffer unless another is asked for. -/
def defaultCapacity : Nat := 10240

/-- Byte that a payload is filled with unless another is asked for. -/
def fillByte : UInt8 := 0x25

/-- UDP port of VXLAN. -/
def vxlanPort : UInt16 := 4789

/-- UDP port of the echo service. -/
def echoPort : UInt16 := 7

/-- Text of a dissected frame has to stay below this many bytes. -/
def maxDissectionText : Nat := 8192

/-- Room that is kept free behind the text of a dissected frame. -/
def textSlack : Nat := 64

/-- Room for the text of a dissected frame at the start. -/
def textStartRoom : Nat := 4 * textSlack

/-- Numbers in descriptions and lengths in a machine stay below this: they have 64 bits. -/
def wordBound : Nat := 0x10000000000000000

end Limits

/-- Settings of a frame store and of the encoder. -/
structure Config where
  /-- Report every layer at level `INFO`. -/
  verbose : Bool := false
  /-- Report the bytes of every encoded frame. -/
  dump : Bool := false
  /-- Capacity of new frame buffers. -/
  frameSize : Nat := Limits.defaultCapacity
  deriving DecidableEq, Repr

/-- A frame buffer holds at least the longest Ethernet frame. -/
def Config.withFrameSize (config : Config) (size : Nat) : Config :=
  { config with frameSize := max size Limits.maxFrameLength }

end FrameText
