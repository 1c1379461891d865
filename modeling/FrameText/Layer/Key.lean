import FrameText.Text.Basic

/-!
# Parameter keys

The keys that the parameters of layers are given by.  A key is read in any letter case, and `vid`
is another word for `vlan`.
-/

namespace FrameText

/-- The keys of layer parameters. -/
inductive Key where
  | dst | src
  | vlan | prio | cfi
  | tos | ttl | id | proto | ver | ihl | len | fragoff | cksum
  | hops | vtc
  | dport | sport
  | seq | ack | flags | win | dataOff | urp
  | vni
  | val
  | size | append | fill
  deriving DecidableEq, Repr

namespace Key

/-- Every key once. -/
def all : List Key :=
  [dst, src, vlan, prio, cfi, tos, ttl, id, proto, ver, ihl, len, fragoff, cksum, hops, vtc,
    dport, sport, seq, ack, flags, win, dataOff, urp, vni, val, size, append, fill]

theorem mem_all (key : Key) : key ∈ all := by
  cases key <;> decide

/-- How a key is written. -/
def name : Key → Text
  | dst => "dst".toList
  | src => "src".toList
  | vlan => "vlan".toList
  | prio => "prio".toList
  | cfi => "cfi".toList
  | tos => "tos".toList
  | ttl => "ttl".toList
  | id => "id".toList
  | proto => "proto".toList
  | ver => "ver".toList
  | ihl => "ihl".toList
  | len => "len".toList
  | fragoff => "fragoff".toList
  | cksum => "cksum".toList
  | hops => "hops".toList
  | vtc => "vtc".toList
  | dport => "dport".toList
  | sport => "sport".toList
  | seq => "seq".toList
  | ack => "ack".toList
  | flags => "flags".toList
  | win => "win".toList
  | dataOff => "data_off".toList
  | urp => "urp".toList
  | vni => "vni".toList
  | val => "val".toList
  | size => "size".toList
  | append => "append".toList
  | fill => "fill".toList

/-- The key that a text names. -/
def ofText? (s : Text) : Option Key :=
  let s := Text.lower s
  if s = "vid".toList then some vlan else all.find? (·.name == s)

theorem ofText?_name (key : Key) : ofText? key.name = some key := by
  cases key <;> decide

end Key

end FrameText
