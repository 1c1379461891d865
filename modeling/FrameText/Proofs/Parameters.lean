import FrameText.Layer.Basic
import FrameText.Proofs.Results

/-!
# Parameters — the value that is given last counts

The parameters of a layer are set one after the other.  For every kind of layer the result is told
here at once: each field has the value that is given last for its key, or its default.

1. `lastGiven` finds that value among the keys and values of a layer.
2. `observe_of_assignAll` reduces a statement about all parameters to one about a single one.
3. The `given` functions are the results, one for each kind of layer with parameters.
-/

namespace FrameText

/-- A value as it is read behind a key, which matters for the error only. -/
abbrev Reading (α : Type) : Type :=
  Text → Text → Except Error α

/-- The value that is given last for a key. -/
def lastGiven {α : Type} (key : Key) (read : Reading α) : List (Text × Text) → Option α
  | [] => none
  | pair :: rest =>
    (lastGiven key read rest).or
      (if Key.ofText? pair.1 = some key then (read pair.1 pair.2).toOption else none)

/-- A hardware address as a value. -/
def macValue : Reading MacAddress := fun _ value => MacAddress.parse value

/-- A protocol as a value. -/
def protocolValue : Reading IpProtocol := fun _ value => IpProtocol.parse value

/-- One parameter more in front changes the value that counts where nothing is given behind it. -/
theorem getD_lastGiven_cons {α : Type} (key : Key) (read : Reading α) (name value : Text)
    (rest : List (Text × Text)) (default : α) :
    (lastGiven key read ((name, value) :: rest)).getD default =
      (lastGiven key read rest).getD
        (if Key.ofText? name = some key then (read name value).toOption.getD default
        else default) := by
  rw [lastGiven]
  cases lastGiven key read rest with
  | some last => rfl
  | none => split <;> rfl

theorem or_lastGiven_cons {α : Type} (key : Key) (read : Reading α) (name value : Text)
    (rest : List (Text × Text)) (default : Option α) :
    (lastGiven key read ((name, value) :: rest)).or default =
      (lastGiven key read rest).or
        (if Key.ofText? name = some key then (read name value).toOption.or default
        else default) := by
  rw [lastGiven, Option.or_assoc]
  split
  · rfl
  · rw [Option.none_or]

namespace Layer

/-! ## All parameters from one -/

/-- What can be said of a layer and the parameters that are still to come holds of the finished
layer, if setting one parameter keeps it. -/
theorem observe_of_assignAll {σ τ : Type} {assign : σ → Text → Text → Except Error σ}
    (observe : List (Text × Text) → σ → τ)
    (step : ∀ {layer key value changed} rest, assign layer key value = .ok changed →
      observe ((key, value) :: rest) layer = observe rest changed)
    {defaults final : σ} {params : Text} (success : assignAll assign defaults params = .ok final) :
    ∃ pairs, assignments params = .ok pairs ∧ observe [] final = observe pairs defaults := by
  -- The induction is on the parameters that are still to come.
  have run : ∀ (pairs : List (Text × Text)) (layer : σ),
      pairs.foldlM (fun layer pair => assign layer pair.1 pair.2) layer = .ok final →
        observe [] final = observe pairs layer := by
    intro pairs
    induction pairs with
    | nil =>
      intro layer done
      cases done
      rfl
    | cons pair rest ih =>
      intro layer done
      rw [List.foldlM_cons] at done
      rcases bind_eq_ok.1 done with ⟨changed, set, others⟩
      exact (ih changed others).trans (step rest set).symm
  rcases bind_eq_ok.1 success with ⟨pairs, split, done⟩
  exact ⟨pairs, split, run pairs defaults done⟩

/-! ## The kinds of layer -/

variable {rest : List (Text × Text)} {key value : Text}

/-- An Ethernet header with the parameters that are given. -/
def givenEther (pairs : List (Text × Text)) (header : EthernetHeader) : EthernetHeader :=
  { header with
    destination := (lastGiven .dst macValue pairs).getD header.destination
    source := (lastGiven .src macValue pairs).getD header.source }

theorem givenEther_cons {header changed : EthernetHeader}
    (set : assignEther header key value = .ok changed) :
    givenEther ((key, value) :: rest) header = givenEther rest changed := by
  unfold assignEther at set
  cases found : Key.ofText? key with
  | none =>
    rw [found] at set
    cases set
  | some known =>
    rw [found] at set
    cases known with
    | dst | src =>
      obtain ⟨a, reads, done⟩ := bind_eq_ok.1 set
      cases done
      simp [givenEther, getD_lastGiven_cons, found, macValue, reads, Except.toOption]
    | _ => cases set

/-- The tag control information of a VLAN tag with the parameters that are given. -/
def givenVlan (pairs : List (Text × Text)) (header : VlanHeader) : Nat :=
  ((lastGiven .prio uint8 pairs).getD header.priority).toNat % 8 * 8192 +
    ((lastGiven .cfi uint8 pairs).getD (UInt8.ofNat header.dropEligible.toNat)).toNat % 2 * 4096 +
    ((lastGiven .vlan uint16 pairs).getD header.vlanId).toNat % 4096

/-- Cutting a field to its width twice is cutting it once. -/
theorem givenVlan_ofFields (pairs : List (Text × Text)) (vlanId : UInt16) (priority : UInt8)
    (dropEligible : Bool) :
    givenVlan pairs (.ofFields vlanId priority dropEligible) =
      ((lastGiven .prio uint8 pairs).getD priority).toNat % 8 * 8192 +
        ((lastGiven .cfi uint8 pairs).getD (UInt8.ofNat dropEligible.toNat)).toNat % 2 * 4096 +
        ((lastGiven .vlan uint16 pairs).getD vlanId).toNat % 4096 := by
  have prio : ∀ given : Option UInt8,
      (given.getD (UInt8.ofNat (priority.toNat % 8))).toNat % 8 =
        (given.getD priority).toNat % 8 := by
    intro given
    cases given <;> simp
  have vlan : ∀ given : Option UInt16,
      (given.getD (UInt16.ofNat (vlanId.toNat % 4096))).toNat % 4096 =
        (given.getD vlanId).toNat % 4096 := by
    intro given
    cases given <;> simp
  simp only [givenVlan, VlanHeader.ofFields, prio, vlan]

theorem givenVlan_cons {tag : VlanTag} {header changed : VlanHeader}
    (set : assignVlan tag header key value = .ok changed) :
    givenVlan ((key, value) :: rest) header = givenVlan rest changed := by
  -- A bit that is read as a truth value is the bit again.
  have bit : ∀ (given : Option UInt8) (a : UInt8),
      (given.getD (UInt8.ofNat (a.toNat % 2 == 1).toNat)).toNat % 2 = (given.getD a).toNat % 2 := by
    intro given a
    cases given with
    | some last => rfl
    | none =>
      rcases Nat.mod_two_eq_zero_or_one a.toNat with even | odd
      · simp [even]
      · simp [odd]
  unfold assignVlan at set
  cases found : Key.ofText? key with
  | none =>
    rw [found] at set
    cases set
  | some known =>
    rw [found] at set
    cases known with
    | vlan | prio | cfi =>
      obtain ⟨a, reads, done⟩ := bind_eq_ok.1 set
      cases done
      rw [givenVlan_ofFields]
      simp [givenVlan, getD_lastGiven_cons, found, reads, Except.toOption, bit]
    | _ => cases set

/-- An IPv4 header and protocol with the parameters that are given. -/
def givenIPv4 (pairs : List (Text × Text)) (layer : IPv4Header × Option IpProtocol) :
    IPv4Header × Option IpProtocol :=
  ({ layer.1 with
      tos := (lastGiven .tos uint8 pairs).getD layer.1.tos
      ttl := (lastGiven .ttl uint8 pairs).getD layer.1.ttl
      identification := (lastGiven .id uint16 pairs).getD layer.1.identification
      source := (lastGiven .src (address IPv4Address.ofText?) pairs).getD layer.1.source
      destination :=
        (lastGiven .dst (address IPv4Address.ofText?) pairs).getD layer.1.destination },
    (lastGiven .proto protocolValue pairs).or layer.2)

theorem givenIPv4_cons {layer changed : IPv4Header × Option IpProtocol}
    (set : assignIPv4 layer key value = .ok changed) :
    givenIPv4 ((key, value) :: rest) layer = givenIPv4 rest changed := by
  simp only [assignIPv4] at set
  cases found : Key.ofText? key with
  | none =>
    rw [found] at set
    cases set
  | some known =>
    rw [found] at set
    cases known with
    | dst | src | tos | ttl | id | proto =>
      obtain ⟨a, reads, done⟩ := bind_eq_ok.1 set
      cases done
      simp [givenIPv4, getD_lastGiven_cons, or_lastGiven_cons, found, protocolValue, reads,
        Except.toOption]
    | ver | ihl | len | fragoff | cksum =>
      cases set
      simp [givenIPv4, getD_lastGiven_cons, or_lastGiven_cons, found]
    | _ => cases set

/-- An IPv6 header and protocol with the parameters that are given. -/
def givenIPv6 (pairs : List (Text × Text)) (layer : IPv6Header × Option IpProtocol) :
    IPv6Header × Option IpProtocol :=
  ({ layer.1 with
      hopLimit := (lastGiven .hops uint8 pairs).getD layer.1.hopLimit
      source := (lastGiven .src (address IPv6Address.ofText?) pairs).getD layer.1.source
      destination :=
        (lastGiven .dst (address IPv6Address.ofText?) pairs).getD layer.1.destination },
    (lastGiven .proto protocolValue pairs).or layer.2)

theorem givenIPv6_cons {layer changed : IPv6Header × Option IpProtocol}
    (set : assignIPv6 layer key value = .ok changed) :
    givenIPv6 ((key, value) :: rest) layer = givenIPv6 rest changed := by
  simp only [assignIPv6] at set
  cases found : Key.ofText? key with
  | none =>
    rw [found] at set
    cases set
  | some known =>
    rw [found] at set
    cases known with
    | dst | src | hops | proto =>
      obtain ⟨a, reads, done⟩ := bind_eq_ok.1 set
      cases done
      simp [givenIPv6, getD_lastGiven_cons, or_lastGiven_cons, found, protocolValue, reads,
        Except.toOption]
    | vtc | len =>
      cases set
      simp [givenIPv6, getD_lastGiven_cons, or_lastGiven_cons, found]
    | _ => cases set

/-- The ports of a UDP header with the parameters that are given. -/
def givenUdp (pairs : List (Text × Text)) (ports : Option UInt16 × Option UInt16) :
    Option UInt16 × Option UInt16 :=
  ((lastGiven .sport uint16 pairs).or ports.1, (lastGiven .dport uint16 pairs).or ports.2)

theorem givenUdp_cons {ports changed : Option UInt16 × Option UInt16}
    (set : assignUdp ports key value = .ok changed) :
    givenUdp ((key, value) :: rest) ports = givenUdp rest changed := by
  unfold assignUdp at set
  cases found : Key.ofText? key with
  | none =>
    rw [found] at set
    cases set
  | some known =>
    rw [found] at set
    cases known with
    | sport | dport =>
      obtain ⟨a, reads, done⟩ := bind_eq_ok.1 set
      cases done
      simp [givenUdp, or_lastGiven_cons, found, reads, Except.toOption]
    | len | cksum =>
      cases set
      simp [givenUdp, or_lastGiven_cons, found]
    | _ => cases set

/-- A TCP header with the parameters that are given. -/
def givenTcp (pairs : List (Text × Text)) (header : TcpHeader) : TcpHeader :=
  { header with
    sourcePort := (lastGiven .sport uint16 pairs).getD header.sourcePort
    destinationPort := (lastGiven .dport uint16 pairs).getD header.destinationPort
    sequence := (lastGiven .seq uint32 pairs).getD header.sequence
    acknowledgment := (lastGiven .ack uint32 pairs).getD header.acknowledgment
    flags := ⟨(lastGiven .flags uint8 pairs).getD header.flags.bits⟩
    window := (lastGiven .win uint16 pairs).getD header.window }

theorem givenTcp_cons {header changed : TcpHeader}
    (set : assignTcp header key value = .ok changed) :
    givenTcp ((key, value) :: rest) header = givenTcp rest changed := by
  unfold assignTcp at set
  cases found : Key.ofText? key with
  | none =>
    rw [found] at set
    cases set
  | some known =>
    rw [found] at set
    cases known with
    | dport | sport | seq | ack | flags | win =>
      obtain ⟨a, reads, done⟩ := bind_eq_ok.1 set
      cases done
      simp [givenTcp, getD_lastGiven_cons, found, reads, Except.toOption]
    | dataOff | cksum | urp =>
      cases set
      simp [givenTcp, getD_lastGiven_cons, found]
    | _ => cases set

/-- A VXLAN header with the parameters that are given. -/
def givenVxlan (pairs : List (Text × Text)) (header : VxlanHeader) : VxlanHeader :=
  ((lastGiven .vni uint32 pairs).map VxlanHeader.ofVni).getD header

theorem givenVxlan_cons {header changed : VxlanHeader}
    (set : assignVxlan header key value = .ok changed) :
    givenVxlan ((key, value) :: rest) header = givenVxlan rest changed := by
  unfold assignVxlan at set
  cases found : Key.ofText? key with
  | none =>
    rw [found] at set
    cases set
  | some known =>
    rw [found] at set
    cases known with
    | vni =>
      obtain ⟨a, reads, done⟩ := bind_eq_ok.1 set
      cases done
      rw [givenVxlan, givenVxlan, lastGiven, if_pos found, reads]
      cases lastGiven .vni uint32 rest <;> rfl
    | flags =>
      cases set
      rw [givenVxlan, givenVxlan, lastGiven, if_neg (by rw [found]; decide), Option.or_none]
    | _ => cases set

/-- A timestamp marker with the parameters that are given. -/
def givenTsc (pairs : List (Text × Text)) (header : Timestamp) : Timestamp where
  value := (lastGiven .val uint64 pairs).getD header.value

theorem givenTsc_cons {header changed : Timestamp}
    (set : assignTsc header key value = .ok changed) :
    givenTsc ((key, value) :: rest) header = givenTsc rest changed := by
  unfold assignTsc at set
  cases found : Key.ofText? key with
  | none =>
    rw [found] at set
    cases set
  | some known =>
    rw [found] at set
    cases known with
    | val =>
      obtain ⟨a, reads, done⟩ := bind_eq_ok.1 set
      cases done
      simp [givenTsc, getD_lastGiven_cons, found, reads, Except.toOption]
    | _ => cases set

end Layer

end FrameText
