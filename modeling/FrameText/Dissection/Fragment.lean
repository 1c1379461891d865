import FrameText.Dissection.Basic
import FrameText.Layer.Key
import FrameText.RawText

/-!
# The text of a dissected frame

Every header becomes a layer with its field values as parameters.  Bytes that nothing is known about
become a `Raw` layer, and a `Payload` layer with the length of the frame stands at the end.
-/

namespace FrameText

open Text (decimal hexMarked)

/-- A layer of a description, with its parameters in order. -/
structure Fragment where
  kind : LayerKind
  fields : List (Key × Text)
  deriving DecidableEq, Repr

/-- The text of a layer. -/
def Fragment.text (fragment : Fragment) : Text :=
  fragment.kind.name ++ '(' ::
    Text.join [','] (fragment.fields.map fun field => field.1.name ++ '=' :: field.2) ++ [')']

namespace FoundHeader

/-- The parameters that show the fields of a header. -/
def fields : FoundHeader → List (Key × Text)
  | ether header => [(.dst, header.destination.print), (.src, header.source.print)]
  | vlan _ header => [
      (.vlan, decimal header.vlanId.toNat),
      (.prio, decimal header.priority.toNat),
      (.cfi, decimal header.dropEligible.toNat)]
  | ipv4 header => [
      (.ver, decimal header.version),
      (.ihl, decimal header.words),
      (.tos, hexMarked 2 header.tos.toNat),
      (.len, decimal header.totalLength.toNat),
      (.id, decimal header.identification.toNat),
      (.fragoff, hexMarked 4 header.fragmentOffset.toNat),
      (.ttl, decimal header.ttl.toNat),
      (.cksum, hexMarked 4 header.checksum.toNat),
      (.dst, header.destination.print),
      (.src, header.source.print),
      (.proto, header.protocol.print)]
  | ipv6 header => [
      (.vtc, hexMarked 8 header.vtcFlow.toNat),
      (.len, decimal header.payloadLength.toNat),
      (.hops, decimal header.hopLimit.toNat),
      (.dst, header.destination.print),
      (.src, header.source.print),
      (.proto, header.nextHeader.print)]
  | udp header => [
      (.dport, decimal header.destinationPort.toNat),
      (.sport, decimal header.sourcePort.toNat),
      (.len, decimal header.length.toNat),
      (.cksum, hexMarked 4 header.checksum.toNat)]
  | tcp header => [
      (.sport, decimal header.sourcePort.toNat),
      (.dport, decimal header.destinationPort.toNat),
      (.seq, decimal header.sequence.toNat),
      (.ack, decimal header.acknowledgment.toNat),
      (.dataOff, decimal header.dataOffset.toNat),
      (.flags, hexMarked 2 header.flags.bits.toNat),
      (.win, decimal header.window.toNat),
      (.cksum, hexMarked 4 header.checksum.toNat),
      (.urp, decimal header.urgentPointer.toNat)]
  | vxlan header => [
      (.flags, hexMarked 2 header.flags.toNat),
      (.vni, decimal header.vni.toNat)]
  | tsc header => [(.val, hexMarked 16 header.value.toNat)]

/-- The layer that shows a header. -/
def fragment (header : FoundHeader) : Fragment where
  kind := header.kind
  fields := header.fields

end FoundHeader

/-- The `Raw` layer that shows bytes. -/
def rawLayer (bytes : Bytes) : Text :=
  LayerKind.raw.name ++ "('".toList ++ RawText.escape bytes ++ "')".toList

/-- The `Payload` layer of a frame of this length, which counts the frame check sequence. -/
def payloadLayer (length : Nat) : Fragment where
  kind := .payload
  fields := [(.len, decimal (length + Limits.checkLength))]

namespace Dissection

/-- The texts of the headers, each with the slash behind it. -/
def headerTexts (dissection : Dissection) : List Text :=
  dissection.headers.map fun header => header.fragment.text ++ ['/']

/-- The texts behind the headers of a frame of this length whose last bytes are `rest`. -/
def closingTexts (length : Nat) (rest : Bytes) : List Text :=
  if rest = [] then
    [(payloadLayer length).text]
  else
    [rawLayer rest ++ ['/'], (payloadLayer length).text]

end Dissection

end FrameText
