import FrameText.Bytes
import FrameText.Error

/-!
# MAC addresses

Six octets.  The printed form is six pairs of capital hexadecimal digits with colons between them.
Reading also accepts small letters, hyphens, single digits, and three groups of up to four digits.
-/

namespace FrameText

/-- A 48-bit hardware address, as its six octets in transmission order. -/
structure MacAddress where
  (a b c d e f : UInt8)
  deriving DecidableEq, Repr

namespace MacAddress

/-- All stations. -/
def broadcast : MacAddress := ⟨0xFF, 0xFF, 0xFF, 0xFF, 0xFF, 0xFF⟩

/-- The address of no station. -/
def zero : MacAddress := ⟨0, 0, 0, 0, 0, 0⟩

/-- The six octets. -/
def octets (mac : MacAddress) : Bytes :=
  [mac.a, mac.b, mac.c, mac.d, mac.e, mac.f]

/-- The address with the six octets that start at `offset`. -/
def readAt (bytes : Bytes) (offset : Nat) : MacAddress :=
  match Bytes.slice bytes offset 6 with
  | [a, b, c, d, e, f] => ⟨a, b, c, d, e, f⟩
  | _ => zero

/-- The printed form. -/
def print (mac : MacAddress) : Text :=
  Text.join [':'] (mac.octets.map fun b => Text.hexUpper 2 b.toNat)

/-- Whether a character separates the parts of an address. -/
def isSeparator (c : Char) : Bool :=
  c == ':' || c == '-'

/-- One of six parts: one or two bytes long, and hexadecimal. -/
def octet? (part : Text) : Except ValueFault UInt8 :=
  if part = [] ∨ 2 < Text.byteLength part then
    .error .macOctetLength
  else
    match Text.unsignedBelow? 16 256 part with
    | some n => .ok (UInt8.ofNat n)
    | none => .error .macOctetDigits

/-- One of three parts, as two octets: one to four bytes long, and hexadecimal. -/
def group? (part : Text) : Except ValueFault (UInt8 × UInt8) :=
  if part = [] ∨ 4 < Text.byteLength part then
    .error .macGroupLength
  else
    match Text.unsignedBelow? 16 65536 part with
    | some n => .ok (UInt8.ofNat (n / 256), UInt8.ofNat n)
    | none => .error .macGroupDigits

/-- The address that six or three parts spell. -/
def ofParts : List Text → Except ValueFault MacAddress
  | [a, b, c, d, e, f] => do
    return ⟨← octet? a, ← octet? b, ← octet? c, ← octet? d, ← octet? e, ← octet? f⟩
  | [ab, cd, ef] => do
    let (a, b) ← group? ab
    let (c, d) ← group? cd
    let (e, f) ← group? ef
    return ⟨a, b, c, d, e, f⟩
  | _ => .error .macShape

/-- Reads an address; blanks around it do not count. -/
def parse (s : Text) : Except Error MacAddress :=
  (ofParts ((Text.trim s).splitOnP isSeparator)).mapError (.invalidValue "mac".toList s)

end MacAddress

end FrameText
