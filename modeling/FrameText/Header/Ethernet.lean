import FrameText.Address.Mac
import FrameText.EtherType
import FrameText.Header.Basic

/-!
# Ethernet II header

Destination, source and the type of what follows.
-/

namespace FrameText

/-- Ethernet II header. -/
structure EthernetHeader where
  destination : MacAddress := .broadcast
  source : MacAddress := .zero
  etherType : EtherType := .custom EtherType.placeholder
  deriving DecidableEq, Repr

instance : Header EthernetHeader where
  kind := .ether
  size := 14
  put header :=
    header.destination.octets ++ header.source.octets ++
      Bytes.ofUInt16 header.etherType.toUInt16
  get data := {
    destination := .readAt data 0
    source := .readAt data 6
    etherType := .ofUInt16 (Bytes.uint16At data 12) }
  length_put _ := by simp [MacAddress.octets]

end FrameText
