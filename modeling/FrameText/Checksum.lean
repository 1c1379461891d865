import FrameText.Address.IPv6
import FrameText.Bytes

/-!
# Internet checksum

The one's complement sum of 16-bit words (RFC 1071).

1. `sumWords` adds bytes to a running sum as big-endian words; an odd byte at the end counts as
   the high half of a word.
2. `fold` brings the carries back in, and `complement` turns a sum into a checksum.
3. `overIPv4` and `overIPv6` add the fields of the pseudo-header to the sum of a transport segment.
-/

namespace FrameText

namespace Checksum

/-- Adds bytes to a running sum as big-endian words. -/
def sumWords : Nat → Bytes → Nat
  | sum, [] => sum
  | sum, [high] => sum + high.toNat * 256
  | sum, high :: low :: rest => sumWords (sum + (high.toNat * 256 + low.toNat)) rest

/-- Adds the carries beyond sixteen bits back in until none is left. -/
def fold (sum : Nat) : Nat :=
  if sum < 65536 then sum else fold (sum % 65536 + sum / 65536)
termination_by sum
decreasing_by omega

theorem fold_lt (sum : Nat) : fold sum < 65536 := by
  fun_induction fold sum with
  | case1 sum h => exact h
  | case2 sum h ih => exact ih

/-- The one's complement of a folded sum. -/
def complement (sum : Nat) : UInt16 :=
  UInt16.ofNat (65535 - fold sum)

/-- The checksum of data. -/
def ofBytes (data : Bytes) : UInt16 :=
  complement (sumWords 0 data)

/-- The checksum of a transport segment behind an IPv4 header. -/
def overIPv4 (source destination : IPv4Address) (protocol : UInt8) (segment : Bytes) : UInt16 :=
  let sum := sumWords (sumWords 0 source.octets) destination.octets
  complement (sumWords (sum + protocol.toNat + segment.length % 65536) segment)

/-- The checksum of a transport segment behind an IPv6 header. -/
def overIPv6 (source destination : IPv6Address) (nextHeader : UInt8) (segment : Bytes) : UInt16 :=
  let sum := sumWords (sumWords 0 source.octets) destination.octets
  complement
    (sumWords (sum + segment.length / 65536 + segment.length % 65536 + nextHeader.toNat) segment)

/-- Whether data that contains its own checksum is intact: the result is one of the two zeros. -/
def isValid (data : Bytes) : Bool :=
  ofBytes data == 0 || ofBytes data == 0xFFFF

end Checksum

end FrameText
