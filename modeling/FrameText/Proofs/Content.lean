import FrameText.Proofs.Capacity
import FrameText.Proofs.Orderless
import FrameText.Proofs.Trace
import Mathlib.Data.List.Forall2

/-!
# Content — descriptions that say the same make the same frame

1. `LayerToken.Agrees` relates layers of the same kind whose parameters say the same.
2. `Layer.ofToken_of_agrees` says that such layers are the same once they are read, and
   `Layer.ofDescription_of_agrees` says so of whole descriptions.
3. `Frame.encode_of_agrees` draws the conclusion for the frames.
-/

namespace FrameText

open Encoding

/-- Whether two layers say the same: literal bytes in the same words, other layers under the same
keys, each of which is given once. -/
inductive LayerToken.Agrees : LayerToken → LayerToken → Prop where
  | raw (params : Text) : Agrees ⟨.raw, params⟩ ⟨.raw, params⟩
  | said {kind : LayerKind} {params again : Text} {pairs others : List (Text × Text)} :
      kind ≠ .raw → assignments params = .ok pairs → assignments again = .ok others →
      ((content kind pairs).map Prod.fst).Nodup → ((content kind others).map Prod.fst).Nodup →
      (∀ item, item ∈ content kind pairs ↔ item ∈ content kind others) →
      Agrees ⟨kind, params⟩ ⟨kind, again⟩

/-- Layers say the same if one lists what the other lists, in any order. -/
theorem LayerToken.agrees_of_perm {kind : LayerKind} {params again : Text}
    {pairs others : List (Text × Text)} (literal : kind ≠ .raw)
    (split : assignments params = .ok pairs) (splitAgain : assignments again = .ok others)
    (once : ((content kind pairs).map Prod.fst).Nodup)
    (perm : (content kind pairs).Perm (content kind others)) :
    Agrees ⟨kind, params⟩ ⟨kind, again⟩ :=
  .said literal split splitAgain once ((perm.map _).nodup_iff.1 once) fun _ => perm.mem_iff

/-! ## Layers -/

namespace Layer

variable {text description : Text} {tokens others : List LayerToken}

/-- Layers that say the same are the same, or neither can be read. -/
theorem ofToken_of_agrees {token again : LayerToken} (agrees : token.Agrees again) :
    (ofToken again).toOption = (ofToken token).toOption := by
  cases agrees with
  | raw params => rfl
  | @said kind params again pairs others literal split splitAgain once onceAgain same =>
    have read : ∀ {σ : Type} {assign : σ → Text → Text → Except Error σ}, Orderless kind assign →
        ∀ (defaults : σ) (make : σ → Layer),
          (make <$> assignAll assign defaults again).toOption =
            (make <$> assignAll assign defaults params).toOption := by
      intro σ assign orderless defaults make
      have equal := orderless.assignAll_of_content defaults split splitAgain once onceAgain same
      exact (toOption_map _ make).trans ((congrArg _ equal.symm).trans (toOption_map _ make).symm)
    cases kind with
    | ether => exact read (gives_ether.orderless (by decide)) _ _
    | dot1q => exact read ((gives_vlan .customer).orderless (by decide)) _ _
    | dot1ad => exact read ((gives_vlan .service).orderless (by decide)) _ _
    | ipv4 => exact read (gives_ipv4.orderless (by decide)) _ _
    | ipv6 => exact read (gives_ipv6.orderless (by decide)) _ _
    | udp => exact read (gives_udp.orderless (by decide)) _ _
    | tcp => exact read (gives_tcp.orderless (by decide)) _ _
    | vxlan => exact read (gives_vxlan.orderless (by decide)) _ _
    | echo => exact read (gives_echo.orderless (by decide)) _ _
    | tsc => exact read (gives_tsc.orderless (by decide)) _ _
    | raw => exact absurd rfl literal
    | payload => exact read orderless_payload _ _

theorem mapM_of_agrees (agree : List.Forall₂ LayerToken.Agrees tokens others) :
    (others.mapM ofToken).toOption = (tokens.mapM ofToken).toOption := by
  induction agree with
  | nil => rfl
  | cons first _ ih =>
    simp only [List.mapM_cons, toOption_bind, ofToken_of_agrees first, ih]

/-- Descriptions that say the same spell the same layers. -/
theorem ofDescription_of_agrees
    (known : (layerTexts text).map LayerToken.ofText? = tokens.map some)
    (knownAgain : (layerTexts description).map LayerToken.ofText? = others.map some)
    (agree : List.Forall₂ LayerToken.Agrees tokens others) :
    (ofDescription description).toOption = (ofDescription text).toOption := by
  have count := agree.length_eq
  have empty : tokens = [] ↔ others = [] := by
    rw [← List.length_eq_zero_iff, ← List.length_eq_zero_iff, count]
  rw [ofDescription, ofDescription, scan_of_known known, scan_of_known knownAgain, ← count]
  simp only [empty]
  split
  · rfl
  · split
    · rfl
    · exact mapM_of_agrees agree

end Layer

/-! ## Frames -/

/-- Descriptions that say the same either fail both, or make frames with the same bytes, marker and
extents. -/
theorem Frame.encode_of_agrees (config : Config) (name label : Text) (capacity : Nat)
    {text description : Text} {tokens others : List LayerToken}
    (known : (layerTexts text).map LayerToken.ofText? = tokens.map some)
    (knownAgain : (layerTexts description).map LayerToken.ofText? = others.map some)
    (agree : List.Forall₂ LayerToken.Agrees tokens others) :
    let first := (new name text capacity).encode config
    let second := (new label description capacity).encode config
    (first.result = .ok () ∧ second.result = .ok () ∧ second.state.data = first.state.data ∧
        second.state.tscOffset = first.state.tscOffset ∧ second.state.l2 = first.state.l2 ∧
        second.state.l3 = first.state.l3 ∧ second.state.l4 = first.state.l4) ∨
      (∃ e, first.result = .error e) ∧ ∃ e, second.result = .error e := by
  intro first second
  have spelled := Layer.ofDescription_of_agrees known knownAgain agree
  have reset : ∀ name text label description : Text,
      (new name text capacity).reset.Within (new label description capacity).reset := by
    intro name text label description
    exact Within.new _ _ _ _ (Nat.le_refl (new name text capacity).capacity)
  cases answer : first.result with
  | ok _ =>
    obtain ⟨success, same⟩ := encode_within (reset name text label description) spelled answer
    have used := ((new name text capacity).encode_keeps config).used
    exact .inl ⟨rfl, success, same.data used, same.tscOffset, same.l2, same.l3, same.l4⟩
  | error e =>
    refine .inr ⟨⟨e, rfl⟩, ?_⟩
    cases again : second.result with
    | error e' => exact ⟨e', rfl⟩
    | ok _ =>
      obtain ⟨success, -⟩ := encode_within (reset label description name text) spelled.symm again
      cases answer.symm.trans success

/-- The same frame in other words: the letters are of the other case, the order and the separators
are others, keys have their second names, a derived key is added, and there are blanks and slashes
between the layers. -/
theorem Frame.encode_of_agrees_reworded :
    let text := "Dot1q(vlan=5,prio=3)/IPv4(src=10.0.0.1,ttl=9)/Payload(size=99,fill=1)".toList
    let description :=
      "/ DOT1Q(PRIO=3  Vid=5) // ipv4(cksum=0 TTL=9 src=10.0.0.1 )/payload(fill=1,,LEN=99)/".toList
    ((new [] text 128).encode {}).result = .ok () ∧
      ((new [] description 128).encode {}).result = .ok () ∧
      ((new [] description 128).encode {}).state.data = ((new [] text 128).encode {}).state.data ∧
      ((new [] description 128).encode {}).state.l3 = some ⟨4, 20⟩ := by
  intro text description
  have tag : LayerToken.Agrees ⟨.dot1q, "(vlan=5,prio=3)".toList⟩
      ⟨.dot1q, "(PRIO=3  Vid=5)".toList⟩ :=
    @LayerToken.agrees_of_perm .dot1q _ _
      [("vlan".toList, "5".toList), ("prio".toList, "3".toList)]
      [("PRIO".toList, "3".toList), ("Vid".toList, "5".toList)]
      (by decide) (by decide +kernel) (by decide +kernel) (by decide +kernel) (by decide +kernel)
  have datagram : LayerToken.Agrees ⟨.ipv4, "(src=10.0.0.1,ttl=9)".toList⟩
      ⟨.ipv4, "(cksum=0 TTL=9 src=10.0.0.1 )".toList⟩ :=
    @LayerToken.agrees_of_perm .ipv4 _ _
      [("src".toList, "10.0.0.1".toList), ("ttl".toList, "9".toList)]
      [("cksum".toList, "0".toList), ("TTL".toList, "9".toList),
        ("src".toList, "10.0.0.1".toList)]
      (by decide) (by decide +kernel) (by decide +kernel) (by decide +kernel) (by decide +kernel)
  have filling : LayerToken.Agrees ⟨.payload, "(size=99,fill=1)".toList⟩
      ⟨.payload, "(fill=1,,LEN=99)".toList⟩ :=
    @LayerToken.agrees_of_perm .payload _ _
      [("size".toList, "99".toList), ("fill".toList, "1".toList)]
      [("fill".toList, "1".toList), ("LEN".toList, "99".toList)]
      (by decide) (by decide +kernel) (by decide +kernel) (by decide +kernel) (by decide +kernel)
  have success : ((new [] text 128).encode {}).result = .ok () := by decide +kernel
  have extent : ((new [] text 128).encode {}).state.l3 = some ⟨4, 20⟩ := by decide +kernel
  have known : (layerTexts text).map LayerToken.ofText? =
      [some ⟨.dot1q, "(vlan=5,prio=3)".toList⟩, some ⟨.ipv4, "(src=10.0.0.1,ttl=9)".toList⟩,
        some ⟨.payload, "(size=99,fill=1)".toList⟩] := by
    decide +kernel
  have knownAgain : (layerTexts description).map LayerToken.ofText? =
      [some ⟨.dot1q, "(PRIO=3  Vid=5)".toList⟩,
        some ⟨.ipv4, "(cksum=0 TTL=9 src=10.0.0.1 )".toList⟩,
        some ⟨.payload, "(fill=1,,LEN=99)".toList⟩] := by
    decide +kernel
  rcases Frame.encode_of_agrees {} [] [] 128 known knownAgain
    (.cons tag (.cons datagram (.cons filling .nil))) with
    ⟨-, again, data, -, -, l3, -⟩ | ⟨⟨e, failed⟩, -⟩
  · exact ⟨success, again, data, l3.trans extent⟩
  · cases success.symm.trans failed

end FrameText
