import FrameText.Proofs.Unwinding
import Mathlib.Control.Monad.Basic

/-!
# Records — where the headers of a frame were placed

A frame records its headers and its last timestamp marker on the way down, at the offsets that the
layers in front of them reach.  The end of the description and the way back change the bytes of a
frame and their number, but none of its records.

1. `Layer.placeAll` is the way down alone, and `Layer.records_of_build` says that the finished frame
   has its records.
2. `Layer.exists_of_extent` and `Layer.exists_of_tscOffset` find the layer that a record was made
   for.
3. `Frame.extents_of_encode` says which records lie in the finished frame: all that end within the
   limits of Ethernet, unless a payload cuts the frame in front of their ends.
-/

namespace FrameText

/-- The headers whose extents a frame records. -/
inductive HeaderLevel where
  /-- The outer Ethernet header and the VLAN tags directly behind it. -/
  | link
  /-- The first IP header. -/
  | network
  /-- The first UDP or TCP header. -/
  | transport
  deriving DecidableEq, Repr

/-- Whether layers of a kind are recorded at a level. -/
def HeaderLevel.counts : HeaderLevel → LayerKind → Bool
  | .link, .ether | .link, .dot1q | .link, .dot1ad => true
  | .network, .ipv4 | .network, .ipv6 => true
  | .transport, .udp | .transport, .tcp => true
  | _, _ => false

/-- The extent that a frame records at a level. -/
def Frame.extent? (frame : Frame) : HeaderLevel → Option Extent
  | .link => frame.l2
  | .network => frame.l3
  | .transport => frame.l4

namespace Layer

variable {layer : Layer} {layers front rest : List Layer} {frame final : Frame}
  {level : HeaderLevel} {extent : Extent} {offset : Nat}

/-! ## The way down -/

/-- The frame with all layers placed behind its bytes in use. -/
def placeAll : List Layer → Frame → Frame
  | [], frame => frame
  | layer :: rest, frame => placeAll rest (layer.placed frame)

@[simp] theorem dataLen_placeAll (layers : List Layer) (frame : Frame) :
    (placeAll layers frame).dataLen = reach frame.dataLen layers := by
  induction layers generalizing frame with
  | nil => rfl
  | cons layer rest ih => rw [placeAll, ih, dataLen_placed, reach]

/-- The layers behind are a build of their own, in the frame that those in front leave. -/
theorem exists_inner_of_build (built : build (front ++ rest) frame = .ok final)
    (used : frame.dataLen ≤ frame.capacity) :
    ∃ inner, build rest (placeAll front frame) = .ok inner ∧ inner.dataLen = final.dataLen ∧
      (placeAll front frame).dataLen ≤ (placeAll front frame).capacity ∧
      (placeAll front frame).capacity = frame.capacity := by
  induction front generalizing frame final with
  | nil => exact ⟨final, built, rfl, used, rfl⟩
  | cons layer front ih =>
    rcases (build_cons_eq_ok used).1 built with ⟨room, -, middle, behind, rfl⟩
    obtain ⟨inner, innerBuilt, length, innerUsed, capacity⟩ := ih behind (used_placed room used)
    exact ⟨inner, innerBuilt, length, innerUsed, capacity.trans (capacity_placed room used)⟩

/-- Every layer of a frame ends within the buffer. -/
theorem target_le_capacity_of_build (built : build (front ++ layer :: rest) frame = .ok final)
    (used : frame.dataLen ≤ frame.capacity) :
    layer.target (reach frame.dataLen front) ≤ final.capacity := by
  obtain ⟨inner, innerBuilt, -, innerUsed, capacity⟩ := exists_inner_of_build built used
  have room := ((build_cons_eq_ok innerUsed).1 innerBuilt).1
  rwa [dataLen_placeAll, capacity, ← (build_used built used).2] at room

/-- A frame keeps what the way down has recorded. -/
theorem records_of_build (built : build layers frame = .ok final)
    (used : frame.dataLen ≤ frame.capacity) :
    final.tscOffset = (placeAll layers frame).tscOffset ∧
      ∀ level, final.extent? level = (placeAll layers frame).extent? level := by
  induction layers generalizing frame final with
  | nil =>
    rcases Frame.finish_eq_ok.1 built with ⟨-, rfl⟩
    exact ⟨rfl, fun level => by cases level <;> rfl⟩
  | cons layer rest ih =>
    rcases (build_cons_eq_ok used).1 built with ⟨room, -, inner, behind, rfl⟩
    rcases ih behind (used_placed room used) with ⟨marker, extents⟩
    exact ⟨marker, fun level => (by cases level <;> rfl : _ = inner.extent? level).trans
      (extents level)⟩

/-! ## The layer behind a record -/

/-- A layer that is recorded has a header. -/
theorem isPayload_of_counts (counted : level.counts layer.kind = true) :
    layer.isPayload = false := by
  refine isPayload_eq_false fun payload => ?_
  rw [payload] at counted
  cases level <;> cases counted

/-- A layer leaves the extent at a level alone, or sets or lengthens it so that it ends where the
layer ends. -/
theorem extent_placed (recorded : (layer.placed frame).extent? level = some extent) :
    frame.extent? level = some extent ∨
      level.counts layer.kind = true ∧ extent.stop = frame.dataLen + layer.length := by
  -- A first header is recorded only where there is no record yet.
  have first : ∀ old : Option Extent, (old <|> some ⟨frame.dataLen, layer.length⟩) = some extent →
      old = some extent ∨ extent.stop = frame.dataLen + layer.length := by
    intro old found
    cases old with
    | none =>
      cases found
      exact .inr rfl
    | some old => exact .inl found
  cases level with
  | link =>
    cases layer with
    | ether _ => exact (first frame.l2 recorded).imp_right fun stop => ⟨rfl, stop⟩
    | vlan tag header =>
      have counted : HeaderLevel.link.counts (vlan tag header).kind = true := by
        cases tag <;> rfl
      rcases Option.map_eq_some_iff.1 recorded with ⟨old, before, result⟩
      by_cases directly : old.stop = frame.dataLen
      · rw [if_pos directly] at result
        rw [← result]
        refine .inr ⟨counted, ?_⟩
        rw [Extent.stop, ← directly, Extent.stop]
        exact (Nat.add_assoc _ _ _).symm
      · rw [if_neg directly] at result
        exact .inl (before.trans (congrArg some result))
    | _ => exact .inl recorded
  | network =>
    cases layer with
    | ipv4 _ _ => exact (first frame.l3 recorded).imp_right fun stop => ⟨rfl, stop⟩
    | ipv6 _ _ => exact (first frame.l3 recorded).imp_right fun stop => ⟨rfl, stop⟩
    | _ => exact .inl recorded
  | transport =>
    cases layer with
    | udp _ _ => exact (first frame.l4 recorded).imp_right fun stop => ⟨rfl, stop⟩
    | tcp _ => exact (first frame.l4 recorded).imp_right fun stop => ⟨rfl, stop⟩
    | _ => exact .inl recorded

/-- An extent ends where one of the layers that it counts was placed. -/
theorem exists_of_extent (recorded : (placeAll layers frame).extent? level = some extent) :
    frame.extent? level = some extent ∨
      ∃ front layer back, layers = front ++ layer :: back ∧ level.counts layer.kind = true ∧
        extent.stop = reach frame.dataLen front + layer.length := by
  induction layers generalizing frame with
  | nil => exact .inl recorded
  | cons layer rest ih =>
    rcases ih recorded with here | ⟨front, later, back, rfl, counted, stop⟩
    · rcases extent_placed here with before | ⟨counted, stop⟩
      · exact .inl before
      · exact .inr ⟨[], layer, rest, rfl, counted, stop⟩
    · rw [dataLen_placed] at stop
      exact .inr ⟨layer :: front, later, back, rfl, counted, stop⟩

/-- The recorded offset of a marker is where the last marker was placed. -/
theorem exists_of_tscOffset (recorded : (placeAll layers frame).tscOffset = some offset) :
    (frame.tscOffset = some offset ∧ ∀ layer ∈ layers, layer.kind ≠ .tsc) ∨
      ∃ front marker back, layers = front ++ tsc marker :: back ∧
        (∀ layer ∈ back, layer.kind ≠ .tsc) ∧ offset = reach frame.dataLen front := by
  induction layers generalizing frame with
  | nil => exact .inl ⟨recorded, by simp⟩
  | cons layer rest ih =>
    rcases ih recorded with ⟨here, none⟩ | ⟨front, marker, back, rfl, last, place⟩
    · by_cases marks : layer.kind = .tsc
      · cases layer with
        | tsc marker => exact .inr ⟨[], marker, rest, rfl, none, (Option.some.inj here).symm⟩
        | vlan tag _ => cases tag <;> cases marks
        | _ => cases marks
      · refine .inl ⟨?_, List.forall_mem_cons.2 ⟨marks, none⟩⟩
        cases layer with
        | tsc _ => exact absurd rfl marks
        | _ => exact here
    · rw [dataLen_placed] at place
      exact .inr ⟨layer :: front, marker, back, rfl, last, place⟩

end Layer

/-! ## Extents in the finished frame -/

open Layer in
/-- Every extent of an encoded frame ends where one of the layers that it counts was placed, within
the buffer.  It lies in the frame if the layers reach its end and that is within the limits of
Ethernet, or if it lies in the shortest frame; unless a payload cuts the frame, it is enough that it
ends within the limits. -/
theorem Frame.extents_of_encode {config : Config} {frame : Frame}
    (success : (frame.encode config).result = .ok ()) :
    ∃ final layers, (frame.encode config).state = final ∧
      ofDescription frame.text = .ok layers ∧
      ∀ level extent, final.extent? level = some extent →
        (∃ front layer back, layers = front ++ layer :: back ∧ level.counts layer.kind = true ∧
          extent.stop = reach 0 front + layer.length) ∧
        extent.stop ≤ final.capacity ∧
        (extent.stop ≤ final.dataLen ↔
          extent.stop ≤ 60 ∨ extent.stop ≤ 1514 ∧ extent.stop ≤ reach 0 layers) ∧
        (NeverCuts 0 layers → (extent.stop ≤ final.dataLen ↔ extent.stop ≤ 1514)) := by
  rcases Frame.encode_eq_ok.1 ⟨success, rfl⟩ with ⟨layers, spelled, built⟩
  refine ⟨_, layers, rfl, spelled, ?_⟩
  intro level extent recorded
  generalize (frame.encode config).state = final at built recorded ⊢
  have used : frame.reset.dataLen ≤ frame.reset.capacity := Nat.zero_le _
  rw [(records_of_build built used).2] at recorded
  rcases exists_of_extent recorded with before | ⟨front, layer, back, rfl, counted, stop⟩
  · cases level <;> cases before
  have target : layer.target (reach 0 front) = extent.stop :=
    (target_of_header (isPayload_of_counts counted) _).trans stop.symm
  have room : extent.stop ≤ final.capacity := by
    rw [← target]
    exact target_le_capacity_of_build built used
  have inside : extent.stop ≤ final.dataLen ↔
      extent.stop ≤ 60 ∨ extent.stop ≤ 1514 ∧ extent.stop ≤ reach 0 (front ++ layer :: back) := by
    rw [dataLen_of_build built used]
    exact Limits.le_clamp_iff
  refine ⟨⟨front, layer, back, rfl, counted, stop⟩, room, inside, fun grows => ?_⟩
  constructor
  · intro kept
    exact Nat.le_trans kept (dataLen_bounds_of_build built used).2
  · intro short
    have small : extent.stop < Limits.wordBound := by
      rw [Limits.wordBound]
      omega
    have behind : NeverCuts extent.stop back := by
      rw [← target]
      exact (neverCuts_append_iff.1 grows).2.2
    refine inside.2 (.inr ⟨short, ?_⟩)
    rw [reach_append, reach, target]
    exact le_reach behind (Nat.le_refl _) small

open Layer in
/-- A tagged frame that a payload makes longer. -/
theorem Frame.extents_of_encode_tagged :
    let frame := Frame.new [] "Ether()/Dot1q()/IPv4()/UDP()/Payload(len=90)".toList 100
    (frame.encode {}).result = .ok () ∧
      (frame.encode {}).state.extent? .link = some ⟨0, 18⟩ ∧
      ∀ level extent, (frame.encode {}).state.extent? level = some extent →
        extent.stop ≤ (frame.encode {}).state.dataLen := by
  intro frame
  have success : (frame.encode {}).result = .ok () := by decide +kernel
  have read : ofDescription frame.text = .ok [ether {}, vlan .customer (.ofFields 1 7 false),
      ipv4 {} none, udp none none, payload (.wire 90) 0x25] := by decide +kernel
  have capacity : (frame.encode {}).state.capacity = 100 := by decide +kernel
  rcases Frame.extents_of_encode success with ⟨final, layers, rfl, spelled, extents⟩
  obtain rfl := Except.ok.inj (spelled.symm.trans read)
  refine ⟨success, by decide +kernel, fun level extent recorded => ?_⟩
  rcases extents level extent recorded with ⟨-, room, -, uncut⟩
  exact (uncut (by decide)).2 (by omega)

/-- A payload behind the headers cuts a frame in the TCP header, one in front of them makes room for
headers that the next one cuts off, and the end of the description cuts a frame that is too long. -/
theorem Frame.extents_of_encode_cut :
    let encoded (text : String) := (Frame.new [] text.toList 1600).encode {}
    let tcp := encoded "Ether()/IPv6()/TCP()/Payload(size=64)"
    let late := encoded "Payload(len=64)/Ether()/IPv4()/Payload(len=64)"
    let long := encoded "Payload(size=1518)/Ether()"
    (tcp.result = .ok () ∧ tcp.state.l4 = some ⟨54, 20⟩ ∧
        ¬ (⟨54, 20⟩ : Extent).stop ≤ tcp.state.dataLen) ∧
      (late.result = .ok () ∧ late.state.l2 = some ⟨60, 14⟩ ∧ late.state.l3 = some ⟨74, 20⟩ ∧
        ¬ (⟨60, 14⟩ : Extent).stop ≤ late.state.dataLen ∧
        ¬ (⟨74, 20⟩ : Extent).stop ≤ late.state.dataLen) ∧
      long.result = .ok () ∧ long.state.l2 = some ⟨1514, 14⟩ ∧
        ¬ (⟨1514, 14⟩ : Extent).stop ≤ long.state.dataLen := by
  decide +kernel

end FrameText
