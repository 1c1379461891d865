import FrameText.Header.Ethernet
import FrameText.Header.IPv4
import FrameText.Header.IPv6
import FrameText.Header.Tcp
import FrameText.Header.Timestamp
import FrameText.Header.Udp
import FrameText.Header.Vlan
import FrameText.Header.Vxlan
import FrameText.Limits

/-!
# Dissection

Reads the headers of a frame one after the other.

* A `Reader` says what is expected next; every header chooses the reader behind it by a type field
  or a port.
* `Reader.step` reads one header.  It stops without an error where nothing more is understood, and
  fails where the data ends inside a header or its options.
* `Dissection.ofBytes` repeats the step.  It ends because every header has at least one byte.
-/

namespace FrameText

/-- A header found in a frame. -/
inductive FoundHeader where
  | ether (header : EthernetHeader)
  | vlan (tag : VlanTag) (header : VlanHeader)
  | ipv4 (header : IPv4Header)
  | ipv6 (header : IPv6Header)
  | udp (header : UdpHeader)
  | tcp (header : TcpHeader)
  | vxlan (header : VxlanHeader)
  | tsc (header : Timestamp)
  deriving DecidableEq, Repr

/-- The layer kind of a header. -/
def FoundHeader.kind : FoundHeader → LayerKind
  | ether _ => .ether
  | vlan tag _ => tag.kind
  | ipv4 _ => .ipv4
  | ipv6 _ => .ipv6
  | udp _ => .udp
  | tcp _ => .tcp
  | vxlan _ => .vxlan
  | tsc _ => .tsc

/-- The number of bytes that a header takes in the frame, options included. -/
def FoundHeader.length : FoundHeader → Nat
  | ether _ => Header.size EthernetHeader
  | vlan _ _ => Header.size VlanHeader
  | ipv4 header => Header.size IPv4Header + header.optionsLength
  | ipv6 _ => Header.size IPv6Header
  | udp _ => Header.size UdpHeader
  | tcp header => Header.size TcpHeader + header.optionsLength
  | vxlan _ => Header.size VxlanHeader
  | tsc _ => Header.size Timestamp

theorem FoundHeader.length_pos (header : FoundHeader) : 0 < header.length := by
  cases header <;> simp only [FoundHeader.length, Header.size] <;> omega

/-- What is expected next in a frame. -/
inductive Reader where
  | ether
  | vlan (tag : VlanTag)
  | ipv4
  | ipv6
  | udp
  | tcp
  | vxlan
  /-- A timestamp marker, which may be missing. -/
  | tsc
  /-- Bytes that nothing is known about. -/
  | payload
  deriving DecidableEq, Repr

namespace Reader

/-- The reader of a layer kind. -/
def ofKind : LayerKind → Reader
  | .ether => ether
  | .dot1q => vlan .customer
  | .dot1ad => vlan .service
  | .ipv4 => ipv4
  | .ipv6 => ipv6
  | .udp => udp
  | .tcp => tcp
  | .vxlan => vxlan
  | .tsc => tsc
  | .echo | .raw | .payload => payload

/-! ## What follows a header -/

/-- The reader behind an EtherType. -/
def ofEtherType : EtherType → Reader
  | .dot1q => vlan .customer
  | .dot1ad => vlan .service
  | .ipv4 => ipv4
  | .ipv6 => ipv6
  | .custom _ => payload

/-- The reader behind a protocol number. -/
def ofProtocol : IpProtocol → Reader
  | .udp => udp
  | .tcp => tcp
  | .custom _ => tsc

/-- The reader behind a UDP header: VXLAN if the port and the flags of a complete header say so. -/
def ofDatagram (header : UdpHeader) (rest : Bytes) : Reader :=
  if header.destinationPort = Limits.vxlanPort ∧ Header.size VxlanHeader ≤ rest.length ∧
      Bytes.uint8At rest 0 &&& VxlanHeader.validFlag ≠ 0 then
    vxlan
  else
    tsc

/-- The reader behind a VXLAN header. -/
def ofVxlan (header : VxlanHeader) : Reader :=
  if header.nextProtocol = VxlanHeader.nextEthernet then ether else payload

/-! ## One header -/

/-- Reads a header at the start of the data; the answer has the data behind it. -/
def read (α : Type) [Header α] (data : Bytes) : Except Error (α × Bytes) := do
  return (← Header.readFrom α data, data.drop (Header.size α))

/-- Skips the options of a header. -/
def skip (kind : LayerKind) (length : Nat) (data : Bytes) : Except Error Bytes :=
  if data.length < length then
    .error (.truncated kind length data.length)
  else
    .ok (data.drop length)

/-- Reads one header.  The answer has the next reader and the data behind the header; it is `none`
where the data is nothing that the reader understands. -/
def step (reader : Reader) (data : Bytes) :
    Except Error (Option (FoundHeader × Reader × Bytes)) := do
  match reader with
  | ether =>
    let (header, rest) ← read EthernetHeader data
    return some (.ether header, ofEtherType header.etherType, rest)
  | vlan tag =>
    let (header, rest) ← read VlanHeader data
    return some (.vlan tag header, ofEtherType header.etherType, rest)
  | ipv4 =>
    let (header, rest) ← read IPv4Header data
    let rest ← skip .ipv4 header.optionsLength rest
    return some (.ipv4 header, ofProtocol header.protocol, rest)
  | ipv6 =>
    let (header, rest) ← read IPv6Header data
    return some (.ipv6 header, ofProtocol header.nextHeader, rest)
  | udp =>
    let (header, rest) ← read UdpHeader data
    return some (.udp header, ofDatagram header rest, rest)
  | tcp =>
    let (header, rest) ← read TcpHeader data
    let rest ← skip .tcp header.optionsLength rest
    return some (.tcp header, tsc, rest)
  | vxlan =>
    let (header, rest) ← read VxlanHeader data
    return some (.vxlan header, ofVxlan header, rest)
  | tsc =>
    if Timestamp.startsAt data then
      let (header, rest) ← read Timestamp data
      return some (.tsc header, payload, rest)
    else
      return none
  | payload => return none

section Step

variable {α β : Type} [Header α] {kind : LayerKind} {length : Nat} {data rest : Bytes} {answer : β}

/-- What goes on behind a header starts behind its bytes. -/
theorem of_read_bind {next : α × Bytes → Except Error β}
    (h : read α data >>= next = .ok answer) :
    ∃ header, Header.size α ≤ data.length ∧
      next (header, data.drop (Header.size α)) = .ok answer := by
  by_cases short : data.length < Header.size α
  · rw [read, Header.readFrom, if_pos short] at h
    cases h
  · rw [read, Header.readFrom, if_neg short] at h
    exact ⟨_, Nat.le_of_not_lt short, h⟩

/-- What goes on behind options starts behind their bytes. -/
theorem of_skip_bind {next : Bytes → Except Error β}
    (h : skip kind length data >>= next = .ok answer) :
    length ≤ data.length ∧ next (data.drop length) = .ok answer := by
  by_cases short : data.length < length
  · rw [skip, if_pos short] at h
    cases h
  · rw [skip, if_neg short] at h
    exact ⟨Nat.le_of_not_lt short, h⟩

/-- A step takes exactly the header off the data. -/
theorem step_eq_some {reader next : Reader} {header : FoundHeader}
    (h : step reader data = .ok (some (header, next, rest))) :
    header.length ≤ data.length ∧ rest = data.drop header.length := by
  cases reader with
  | ipv4 | tcp =>
    obtain ⟨found, fits, others⟩ := of_read_bind h
    obtain ⟨room, done⟩ := of_skip_bind others
    cases done
    rw [List.length_drop] at room
    rw [List.drop_drop]
    exact ⟨Nat.add_le_of_le_sub' fits room, rfl⟩
  | tsc =>
    by_cases marked : Timestamp.startsAt data = true
    · rw [step, if_pos marked] at h
      obtain ⟨found, fits, done⟩ := of_read_bind h
      cases done
      exact ⟨fits, rfl⟩
    · rw [step, if_neg marked] at h
      cases h
  | payload => cases h
  | _ =>
    obtain ⟨found, fits, done⟩ := of_read_bind h
    cases done
    exact ⟨fits, rfl⟩

end Step

end Reader

/-! ## All headers -/

/-- The headers of a frame, and what stands behind the last of them. -/
structure Dissection where
  headers : List FoundHeader
  /-- The bytes that nothing is known about, or why a header could not be read. -/
  rest : Except Error Bytes

namespace Dissection

/-- Reads headers until nothing more is understood or the data ends inside a header. -/
def ofBytes (reader : Reader) (data : Bytes) : Dissection :=
  match _found : reader.step data with
  | .error e => ⟨[], .error e⟩
  | .ok none => ⟨[], .ok data⟩
  | .ok (some (header, next, behind)) =>
    let later := ofBytes next behind
    ⟨header :: later.headers, later.rest⟩
termination_by data.length
decreasing_by
  obtain ⟨fits, rfl⟩ := Reader.step_eq_some _found
  have := header.length_pos
  simp only [List.length_drop]
  omega

end Dissection

end FrameText
