import FrameText.Error

/-!
# IP protocols

The number by which an IP header says what follows it.
-/

namespace FrameText

/-- What follows an IP header. -/
inductive IpProtocol where
  | tcp
  | udp
  /-- Any other number. -/
  | custom (value : UInt8)
  deriving DecidableEq, Repr

namespace IpProtocol

/-- Number of an IPv6 header that nothing follows. -/
def noNextHeader : UInt8 := 59

/-- The number of a protocol. -/
def toUInt8 : IpProtocol → UInt8
  | tcp => 6
  | udp => 17
  | custom value => value

/-- The protocol with a number. -/
def ofUInt8 (value : UInt8) : IpProtocol :=
  if value = 6 then tcp else if value = 17 then udp else custom value

@[simp] theorem toUInt8_ofUInt8 (value : UInt8) : (ofUInt8 value).toUInt8 = value := by
  unfold ofUInt8
  repeat' split
  all_goals simp_all [toUInt8]

/-- The printed form. -/
def print : IpProtocol → Text
  | tcp => "tcp".toList
  | udp => "udp".toList
  | custom value => Text.decimal value.toNat

/-- Reads `udp`, `tcp` in any case, or a number. -/
def parse (s : Text) : Except Error IpProtocol :=
  let s := Text.trim s
  if Text.sameIgnoringCase s "udp".toList then
    .ok udp
  else if Text.sameIgnoringCase s "tcp".toList then
    .ok tcp
  else
    match Text.number? 256 s with
    | some n => .ok (ofUInt8 (UInt8.ofNat n))
    | none => .error (.invalidValue "proto".toList s .notAProtocol)

end IpProtocol

end FrameText
