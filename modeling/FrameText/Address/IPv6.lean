import FrameText.Address.IPv4

/-!
# IPv6 addresses

Eight 16-bit groups.

* Printing shows the groups in hexadecimal with colons between them.  The first longest row of two
  or more zero groups becomes `::`, and an address that carries an IPv4 address ends in its
  printed form.
* Reading accepts one `::` for one or more zero groups, and an IPv4 address as the last two groups.
-/

namespace FrameText

/-- A 128-bit Internet address, as its eight groups in transmission order. -/
structure IPv6Address where
  (a b c d e f g h : UInt16)
  deriving DecidableEq, Repr

namespace IPv6Address

/-- The address of no host. -/
def zero : IPv6Address := ⟨0, 0, 0, 0, 0, 0, 0, 0⟩

/-- The eight groups. -/
def groups (ip : IPv6Address) : List UInt16 :=
  [ip.a, ip.b, ip.c, ip.d, ip.e, ip.f, ip.g, ip.h]

/-- The sixteen octets. -/
def octets (ip : IPv6Address) : Bytes :=
  ip.groups.flatMap fun g => Bytes.beBytes 2 g.toNat

/-- The address with these groups, of which there have to be eight. -/
def ofGroups? : List UInt16 → Option IPv6Address
  | [a, b, c, d, e, f, g, h] => some ⟨a, b, c, d, e, f, g, h⟩
  | _ => none

/-- The address with the sixteen octets that start at `offset`. -/
def readAt (bytes : Bytes) (offset : Nat) : IPv6Address :=
  let group (i : Nat) : UInt16 := UInt16.ofNat (Bytes.field bytes (offset + 2 * i) 2)
  ⟨group 0, group 1, group 2, group 3, group 4, group 5, group 6, group 7⟩

/-! ## Printing -/

/-- Start and length of the first longest row of zero groups. -/
def longestZeroRun : List UInt16 → Nat × Nat
  | [] => (0, 0)
  | g :: gs =>
    let here := ((g :: gs).takeWhile (· == 0)).length
    let later := longestZeroRun gs
    if later.2 ≤ here then (0, here) else (later.1 + 1, later.2)

/-- Groups in hexadecimal, with colons between them. -/
def printGroups (groups : List UInt16) : Text :=
  Text.join [':'] (groups.map fun g => Text.hex 1 g.toNat)

/-- The IPv4 address carried by an address of the form `::ffff:a.b.c.d`. -/
def mapped? (ip : IPv6Address) : Option IPv4Address :=
  match ip.groups with
  | [0, 0, 0, 0, 0, 0xFFFF, _, _] => some (IPv4Address.readAt ip.octets 12)
  | _ => none

/-- The printed form. -/
def print (ip : IPv6Address) : Text :=
  match ip.mapped? with
  | some carried => "::ffff:".toList ++ carried.print
  | none =>
    let run := longestZeroRun ip.groups
    if 1 < run.2 then
      printGroups (ip.groups.take run.1) ++ "::".toList ++
        printGroups (ip.groups.drop (run.1 + run.2))
    else
      printGroups ip.groups

/-! ## Reading -/

/-- One group: up to four hexadecimal digits. -/
def group? (part : Text) : Option UInt16 :=
  if 4 < part.length then none else (Text.digits? 16 part).map UInt16.ofNat

/-- A carried IPv4 address, as two groups. -/
def carried? (part : Text) : Option (List UInt16) :=
  (IPv4Address.ofText? part).map fun ip =>
    [UInt16.ofNat (Bytes.field ip.octets 0 2), UInt16.ofNat (Bytes.field ip.octets 2 2)]

/-- Groups with colons between them. -/
def plainGroups? : List Text → Option (List UInt16)
  | [] => some []
  | part :: parts => do return (← group? part) :: (← plainGroups? parts)

/-- Groups with colons between them, the last two possibly as an IPv4 address. -/
def mixedGroups? : List Text → Option (List UInt16)
  | [] => some []
  | [part] => carried? part <|> (group? part).map ([·])
  | part :: parts => do return (← group? part) :: (← mixedGroups? parts)

/-- The parts between colons; an empty text has none. -/
def colonParts (s : Text) : List Text :=
  if s = [] then [] else s.splitOn ':'

/-- Reads an address. -/
def ofText? (s : Text) : Option IPv6Address :=
  match Text.cut? "::".toList s with
  | none => (mixedGroups? (colonParts s)).bind ofGroups?
  | some (front, back) => do
    let front ← plainGroups? (colonParts front)
    let back ← mixedGroups? (colonParts back)
    if front.length + back.length < 8 then
      ofGroups? (front ++ List.replicate (8 - front.length - back.length) 0 ++ back)
    else
      none

end IPv6Address

end FrameText
