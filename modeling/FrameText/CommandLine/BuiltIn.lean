import FrameText.Text.Basic

/-!
# Built-in frames

The frames that are used when none are given, and the captured frame that is injected into the first
of them.
-/

namespace FrameText

namespace CommandLine

/-- Definition strings of the frames that are used when none are given. -/
def builtInFrames : List Text := [
  ("Frame0 := Ether( dst=00:01:02:03:04:05 )/IPv4(dst=1.2.3.4)/UDP(sport=5678, dport=1234)/" ++
    "TSC()/Payload(size=32, fill=0xaa)").toList,
  ("Frame1 := Ether( dst=00:01:02:03:04:05 )/IPv4(dst=1.2.3.4, src=5.6.7.8)/" ++
    "UDP(sport=0x1234, dport=1234)/TSC()/Payload(fill=0xbb)").toList,
  ("Frame2 := Ether(dst=00:11:22:33:44:55, src=01:ff:ff:ff:ff:ff )/" ++
    "Dot1q(vlan=0x322, cfi=1, prio=7)/IPv4(dst=1.2.3.4)/UDP(sport=5678)/" ++
    "Payload(size=128)").toList,
  ("Frame3:=Ether(src=2201:2203:4405)/Dot1ad(vlan=0x22, cfi=1, prio=7)/" ++
    "Dot1q(vlan=0x33, cfi=1, prio=7)/IPv4(dst=1.2.3.4)/TCP(sport=0x5678)/TSC()").toList,
  ("Frame4:=Ether(src=2201:2203:4405)/Dot1Q(vlan=0x22, cfi=1, prio=7)/" ++
    "Dot1ad(vlan=0x33, cfi=1, prio=7)/IPv4(dst=1.2.3.4)/TCP(sport=0x5678)/TSC()").toList]

/-- The bytes of a captured UDP frame. -/
def capturedFrame : Text :=
  ("3C FD FE E4 34 C0 3C FD FE E4 38 40 08 00 45 00 " ++
    "00 72 B3 0F 00 00 40 11 3A 45 C6 12 00 01 C6 12 " ++
    "01 01 04 D2 16 2E 00 5E BE 84 6B 6C 6D 6E 6F 70 " ++
    "E8 A7 59 CF 57 E2 03 00 54 73 74 61 6D 70 32 32 " ++
    "61 62 63 64 65 66 67 68 69 6A 6B 6C 6D 6E 6F 70 " ++
    "71 72 73 74 75 76 77 78 79 7A 30 31 32 33 34 35 " ++
    "61 62 63 64 65 66 67 68 69 6A 6B 6C 6D 6E 6F 70 " ++
    "71 72 73 74 75 76 77 78 79 7A 30 31 32 33 34 35").toList

/-- The frame that the captured bytes go into, and the bytes. -/
def builtInInjection : Text × Text :=
  ("Frame0".toList, capturedFrame)

end CommandLine

end FrameText
