import FrameText.Bytes
import FrameText.Error

/-!
# IPv4 addresses

Four octets, printed in decimal with points between them.  Only this form is read: one to three
digits for an octet, no leading zero.
-/

namespace FrameText

/-- A 32-bit Internet address, as its four octets in transmission order. -/
structure IPv4Address where
  (a b c d : UInt8)
  deriving DecidableEq, Repr

namespace IPv4Address

/-- The address of no host. -/
def zero : IPv4Address := ⟨0, 0, 0, 0⟩

/-- The four octets. -/
def octets (ip : IPv4Address) : Bytes :=
  [ip.a, ip.b, ip.c, ip.d]

/-- The address with the four octets that start at `offset`. -/
def readAt (bytes : Bytes) (offset : Nat) : IPv4Address :=
  match Bytes.slice bytes offset 4 with
  | [a, b, c, d] => ⟨a, b, c, d⟩
  | _ => zero

/-- The printed form. -/
def print (ip : IPv4Address) : Text :=
  Text.join ['.'] (ip.octets.map fun b => Text.decimal b.toNat)

/-- One part of a printed address: up to three digits without a leading zero, below 256. -/
def octet? (part : Text) : Option UInt8 :=
  if 3 < part.length ∨ (part.head? = some '0' ∧ 1 < part.length) then
    none
  else
    ((Text.digits? 10 part).filter (· < 256)).map UInt8.ofNat

/-- Reads a printed address. -/
def ofText? (s : Text) : Option IPv4Address :=
  match s.splitOn '.' with
  | [a, b, c, d] => do return ⟨← octet? a, ← octet? b, ← octet? c, ← octet? d⟩
  | _ => none

end IPv4Address

end FrameText
