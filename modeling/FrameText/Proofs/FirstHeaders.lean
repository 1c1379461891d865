import FrameText.Proofs.Records
import FrameText.Proofs.Refusals

/-!
# First headers — which layers the records of a frame belong to

Of the IP headers and of the transport headers a frame records the first, of the timestamp markers
the last.  The record of the first Ethernet header grows by the tags directly behind it.

1. `Layer.extent?_placeAll_of_first` and `Layer.tscOffset_placeAll_of_last`: the first header of its
   kinds, and the last marker.
2. `Layer.lengthening` leaves out the layers that add no bytes, and `Layer.leadingTags` counts the
   tags in front of the others.
3. `Layer.l2_placeAll_of_first` says how far the record of the Ethernet header grows.
4. `Frame.headers_of_encode` puts them together for a description.
-/

namespace FrameText

namespace Layer

/-! ## Definitions -/

/-- Whether a layer is a VLAN tag. -/
def isTag (layer : Layer) : Bool :=
  layer.kind == .dot1q || layer.kind == .dot1ad

/-- Whether a layer adds no bytes behind `offset` bytes: an echo layer, a raw layer without bytes,
and a payload that does not lengthen the frame. -/
def addsNothing (layer : Layer) (offset : Nat) : Bool :=
  match layer with
  | echo => true
  | raw bytes => bytes.isEmpty
  | payload size _ => decide (size.target offset ≤ offset)
  | _ => false

/-- The layers that lengthen a frame, placed in order behind `offset` bytes. -/
def lengthening : Nat → List Layer → List Layer
  | _, [] => []
  | offset, layer :: rest =>
    if layer.addsNothing offset then lengthening (layer.target offset) rest
    else layer :: lengthening (layer.target offset) rest

/-- The number of tags directly behind `offset` bytes, where layers that add no bytes do not
count. -/
def leadingTags (offset : Nat) (layers : List Layer) : Nat :=
  ((lengthening offset layers).takeWhile isTag).length

/-- No layer ends in front of where it was placed. -/
def NeverShrinks : Nat → List Layer → Prop
  | _, [] => True
  | offset, layer :: rest => offset ≤ layer.target offset ∧ NeverShrinks (layer.target offset) rest

/-- Whether a layer between these others is the first one of these kinds. -/
def FirstOf (kinds : List LayerKind) (layers front : List Layer) (layer : Layer)
    (back : List Layer) : Prop :=
  layers = front ++ layer :: back ∧ layer.kind ∈ kinds ∧ ∀ other ∈ front, other.kind ∉ kinds

/-- Whether a layer between these others is the last one of these kinds. -/
def LastOf (kinds : List LayerKind) (layers front : List Layer) (layer : Layer)
    (back : List Layer) : Prop :=
  layers = front ++ layer :: back ∧ layer.kind ∈ kinds ∧ ∀ other ∈ back, other.kind ∉ kinds

variable {layer : Layer} {layers front rest back : List Layer} {frame : Frame}
  {level : HeaderLevel} {extent : Extent} {offset : Nat} {kinds : List LayerKind}

/-! ## First and last layers -/

/-- Where there are layers of some kinds, one of them is the first. -/
theorem exists_firstOf (member : layer ∈ layers) (counted : layer.kind ∈ kinds) :
    ∃ front first back, FirstOf kinds layers front first back := by
  cases found : layers.find? fun layer => decide (layer.kind ∈ kinds) with
  | none => exact absurd (decide_eq_true counted) (List.find?_eq_none.1 found layer member)
  | some first =>
    obtain ⟨counts, front, back, split, others⟩ := List.find?_eq_some_iff_append.1 found
    refine ⟨front, first, back, split, of_decide_eq_true counts, fun other inFront => ?_⟩
    have passed := others other inFront
    rwa [Bool.not_eq_true', decide_eq_false_iff_not] at passed

/-- And one of them is the last. -/
theorem exists_lastOf (member : layer ∈ layers) (counted : layer.kind ∈ kinds) :
    ∃ front last back, LastOf kinds layers front last back := by
  obtain ⟨front, last, back, split, counts, others⟩ :=
    exists_firstOf (List.mem_reverse.2 member) counted
  refine ⟨back.reverse, last, front.reverse, ?_, counts, fun other behind => ?_⟩
  · rw [← List.reverse_reverse layers, split, List.reverse_append, List.reverse_cons,
      List.append_assoc, List.singleton_append]
  · exact others other (List.mem_reverse.1 behind)

/-! ## Records of other layers -/

theorem placeAll_append (front back : List Layer) (frame : Frame) :
    placeAll (front ++ back) frame = placeAll back (placeAll front frame) := by
  induction front generalizing frame with
  | nil => rfl
  | cons layer front ih => exact ih (layer.placed frame)

/-- A layer that does not count at a level leaves the record there alone. -/
theorem extent?_placed (other : level.counts layer.kind = false) :
    (layer.placed frame).extent? level = frame.extent? level := by
  cases level with
  | link =>
    cases layer with
    | ether _ => cases other
    | vlan tag _ => cases tag <;> cases other
    | _ => rfl
  | network =>
    cases layer with
    | ipv4 _ _ => cases other
    | ipv6 _ _ => cases other
    | _ => rfl
  | transport =>
    cases layer with
    | udp _ _ => cases other
    | tcp _ => cases other
    | _ => rfl

theorem extent?_placeAll_of_others (others : ∀ layer ∈ layers, level.counts layer.kind = false) :
    (placeAll layers frame).extent? level = frame.extent? level := by
  induction layers generalizing frame with
  | nil => rfl
  | cons layer rest ih =>
    rw [placeAll, ih fun later member => others later (List.mem_cons_of_mem layer member),
      extent?_placed (others layer List.mem_cons_self)]

/-! ## The first IP header and the first transport header -/

/-- Above the link level a header is recorded where there is no record yet. -/
theorem extent?_placed_of_counts (above : level ≠ .link) (counted : level.counts layer.kind = true) :
    (layer.placed frame).extent? level =
      (frame.extent? level).or (some ⟨frame.dataLen, layer.length⟩) := by
  cases level with
  | link => exact absurd rfl above
  | network =>
    cases layer with
    | ipv4 _ _ => exact Option.orElse_eq_or
    | ipv6 _ _ => exact Option.orElse_eq_or
    | vlan tag _ => cases tag <;> cases counted
    | _ => cases counted
  | transport =>
    cases layer with
    | udp _ _ => exact Option.orElse_eq_or
    | tcp _ => exact Option.orElse_eq_or
    | vlan tag _ => cases tag <;> cases counted
    | _ => cases counted

/-- Above the link level a record is not changed any more. -/
theorem extent?_placeAll_of_some (above : level ≠ .link)
    (recorded : frame.extent? level = some extent) :
    (placeAll layers frame).extent? level = some extent := by
  induction layers generalizing frame with
  | nil => exact recorded
  | cons layer rest ih =>
    refine ih ?_
    cases counted : level.counts layer.kind with
    | false => rw [extent?_placed counted, recorded]
    | true => rw [extent?_placed_of_counts above counted, recorded, Option.some_or]

/-- The length of an IP header. -/
theorem length_of_network (counted : layer.kind ∈ [.ipv4, .ipv6]) :
    layer.length = if layer.kind = .ipv4 then 20 else 40 := by
  cases layer with
  | ipv4 _ _ => rfl
  | ipv6 _ _ => rfl
  | vlan tag _ => cases tag <;> simp [kind, VlanTag.kind] at counted
  | _ => simp [kind] at counted

/-- The length of a UDP or TCP header. -/
theorem length_of_transport (counted : layer.kind ∈ [.udp, .tcp]) :
    layer.length = if layer.kind = .udp then 8 else 20 := by
  cases layer with
  | udp _ _ => rfl
  | tcp _ => rfl
  | vlan tag _ => cases tag <;> simp [kind, VlanTag.kind] at counted
  | _ => simp [kind] at counted

section Above

variable (above : level ≠ .link) (blank : frame.extent? level = none)
  (counts : ∀ kind, level.counts kind = true ↔ kind ∈ kinds)

include above blank counts

/-- The record is that of the first header that counts. -/
theorem extent?_placeAll_of_first (first : FirstOf kinds layers front layer back) :
    (placeAll layers frame).extent? level = some ⟨reach frame.dataLen front, layer.length⟩ := by
  obtain ⟨rfl, counted, others⟩ := first
  have untouched : (placeAll front frame).extent? level = none := by
    rw [extent?_placeAll_of_others, blank]
    intro other member
    rw [← Bool.not_eq_true, counts]
    exact others other member
  rw [placeAll_append, placeAll]
  refine extent?_placeAll_of_some above ?_
  rw [extent?_placed_of_counts above ((counts _).2 counted), untouched, Option.none_or,
    dataLen_placeAll]

theorem extent?_placeAll_eq_none_iff :
    (placeAll layers frame).extent? level = none ↔ ∀ layer ∈ layers, layer.kind ∉ kinds := by
  constructor
  · intro unrecorded layer member counted
    obtain ⟨front, first, back, place⟩ := exists_firstOf member counted
    rw [extent?_placeAll_of_first above blank counts place] at unrecorded
    cases unrecorded
  · intro others
    rw [extent?_placeAll_of_others, blank]
    intro layer member
    rw [← Bool.not_eq_true, counts]
    exact others layer member

end Above

/-! ## The last marker -/

theorem tscOffset_placed (other : layer.kind ≠ .tsc) :
    (layer.placed frame).tscOffset = frame.tscOffset := by
  cases layer with
  | tsc _ => exact absurd rfl other
  | _ => rfl

theorem tscOffset_placeAll_of_others (others : ∀ layer ∈ layers, layer.kind ≠ .tsc) :
    (placeAll layers frame).tscOffset = frame.tscOffset := by
  induction layers generalizing frame with
  | nil => rfl
  | cons layer rest ih =>
    rw [placeAll, ih fun later member => others later (List.mem_cons_of_mem layer member),
      tscOffset_placed (others layer List.mem_cons_self)]

/-- The recorded offset is that of the last marker. -/
theorem tscOffset_placeAll_of_last (last : LastOf [.tsc] layers front layer back) :
    (placeAll layers frame).tscOffset = some (reach frame.dataLen front) := by
  obtain ⟨rfl, marks, others⟩ := last
  have unmarked : ∀ layer ∈ back, layer.kind ≠ .tsc := fun other member same =>
    others other member (List.mem_singleton.2 same)
  rw [placeAll_append, placeAll, tscOffset_placeAll_of_others unmarked, ← dataLen_placeAll]
  cases layer with
  | tsc marker => rfl
  | vlan tag _ => cases tag <;> cases List.mem_singleton.1 marks
  | _ => cases List.mem_singleton.1 marks

theorem tscOffset_placeAll_eq_none_iff (blank : frame.tscOffset = none) :
    (placeAll layers frame).tscOffset = none ↔ ∀ layer ∈ layers, layer.kind ∉ [.tsc] := by
  constructor
  · intro unrecorded layer member marks
    obtain ⟨front, last, back, place⟩ := exists_lastOf member marks
    rw [tscOffset_placeAll_of_last place] at unrecorded
    cases unrecorded
  · intro others
    rw [tscOffset_placeAll_of_others, blank]
    intro layer member same
    exact others layer member (List.mem_singleton.2 same)

/-! ## The Ethernet header and its tags -/

/-- A layer that ends behind its start adds nothing exactly if it ends there. -/
theorem addsNothing_iff (grows : offset ≤ layer.target offset) :
    layer.addsNothing offset = true ↔ layer.target offset = offset := by
  cases layer with
  | echo => exact iff_of_true rfl rfl
  | raw bytes => simp [addsNothing, target, length]
  | payload size fill =>
    rw [addsNothing, decide_eq_true_iff]
    exact ⟨fun short => Nat.le_antisymm short grows, Nat.le_of_eq⟩
  | _ =>
    refine iff_of_false Bool.false_ne_true (Nat.ne_of_gt (Nat.lt_add_of_pos_right ?_))
    exact Nat.zero_lt_succ _

theorem exists_tag_of_isTag (tagged : layer.isTag = true) :
    ∃ tag header, layer = vlan tag header := by
  cases layer with
  | vlan tag header => exact ⟨tag, header, rfl⟩
  | _ => cases tagged

theorem leadingTags_of_addsNothing (idle : layer.addsNothing offset = true) :
    leadingTags offset (layer :: rest) = leadingTags (layer.target offset) rest := by
  rw [leadingTags, lengthening, if_pos idle, leadingTags]

theorem leadingTags_of_isTag (tagged : layer.isTag = true) :
    leadingTags offset (layer :: rest) = leadingTags (layer.target offset) rest + 1 := by
  obtain ⟨tag, header, rfl⟩ := exists_tag_of_isTag tagged
  have moves : ¬ (vlan tag header).addsNothing offset = true := Bool.false_ne_true
  rw [leadingTags, lengthening, if_neg moves, List.takeWhile_cons_of_pos tagged, List.length_cons,
    leadingTags]

theorem leadingTags_of_other (moves : layer.addsNothing offset = false)
    (other : layer.isTag = false) : leadingTags offset (layer :: rest) = 0 := by
  rw [leadingTags, lengthening, if_neg (by rw [moves]; exact Bool.false_ne_true),
    List.takeWhile_cons_of_neg (by rw [other]; exact Bool.false_ne_true), List.length_nil]

/-- Without an Ethernet header there is no record for a tag to lengthen. -/
theorem l2_placeAll_of_none (blank : frame.l2 = none)
    (others : ∀ layer ∈ layers, layer.kind ≠ .ether) : (placeAll layers frame).l2 = none := by
  induction layers generalizing frame with
  | nil => exact blank
  | cons layer rest ih =>
    refine ih ?_ fun later member => others later (List.mem_cons_of_mem layer member)
    cases layer with
    | ether _ => exact absurd rfl (others _ List.mem_cons_self)
    | vlan _ _ => exact congrArg (Option.map _) blank
    | _ => exact blank

/-- Only a tag directly behind it changes the record of the first Ethernet header. -/
theorem l2_placed (recorded : frame.l2 = some extent)
    (apart : layer.isTag = true → extent.stop ≠ frame.dataLen) :
    (layer.placed frame).l2 = some extent := by
  cases layer with
  | ether _ => exact congrArg (· <|> some _) recorded
  | vlan tag header =>
    have behind := apart (by cases tag <;> rfl)
    refine (congrArg (Option.map _) recorded).trans ?_
    rw [Option.map_some, if_neg behind]
  | _ => exact recorded

theorem l2_placed_of_isTag (recorded : frame.l2 = some extent) (tagged : layer.isTag = true)
    (adjacent : extent.stop = frame.dataLen) :
    (layer.placed frame).l2 = some ⟨extent.offset, extent.length + 4⟩ := by
  obtain ⟨tag, header, rfl⟩ := exists_tag_of_isTag tagged
  refine (congrArg (Option.map _) recorded).trans ?_
  rw [Option.map_some, if_pos adjacent]
  rfl

/-- Once something else stands behind the record, it is not changed any more. -/
theorem l2_placeAll_of_lt (grows : NeverShrinks frame.dataLen layers)
    (recorded : frame.l2 = some extent) (behind : extent.stop < frame.dataLen) :
    (placeAll layers frame).l2 = some extent := by
  induction layers generalizing frame with
  | nil => exact recorded
  | cons layer rest ih =>
    refine ih ?_ (l2_placed recorded fun _ => Nat.ne_of_lt behind) ?_
    · rw [dataLen_placed]
      exact grows.2
    · rw [dataLen_placed]
      exact Nat.lt_of_lt_of_le behind grows.1

/-- A record at the end of the frame grows by the tags that follow. -/
theorem l2_placeAll_of_eq (grows : NeverShrinks frame.dataLen layers)
    (recorded : frame.l2 = some extent) (adjacent : extent.stop = frame.dataLen) :
    (placeAll layers frame).l2 =
      some ⟨extent.offset, extent.length + 4 * leadingTags frame.dataLen layers⟩ := by
  induction layers generalizing frame extent with
  | nil => exact recorded
  | cons layer rest ih =>
    have later : NeverShrinks (layer.placed frame).dataLen rest := by
      rw [dataLen_placed]
      exact grows.2
    cases tagged : layer.isTag with
    | true =>
      -- The record takes the tag in, and ends where the frame does again.
      have step := ih later (l2_placed_of_isTag recorded tagged adjacent) <| by
        obtain ⟨tag, header, rfl⟩ := exists_tag_of_isTag tagged
        rw [dataLen_placed, target_of_header rfl, ← adjacent]
        exact (Nat.add_assoc _ _ _).symm
      rw [placeAll, step, dataLen_placed, leadingTags_of_isTag tagged, Nat.mul_add_one]
      simp only [Nat.add_assoc, Nat.add_comm 4]
    | false =>
      have kept : (layer.placed frame).l2 = some extent := l2_placed recorded fun tag => by
        rw [tagged] at tag
        cases tag
      cases moves : layer.addsNothing frame.dataLen with
      | true =>
        -- The end of the frame stays, so that a tag behind this layer still finds the record there.
        have here := (addsNothing_iff grows.1).1 moves
        rw [placeAll, ih later kept (by rw [dataLen_placed, here, adjacent]), dataLen_placed,
          leadingTags_of_addsNothing moves]
      | false =>
        -- From now on the record ends in front of the end of the frame.
        have moved : layer.target frame.dataLen ≠ frame.dataLen := fun same => by
          rw [(addsNothing_iff grows.1).2 same] at moves
          cases moves
        have behind : extent.stop < (layer.placed frame).dataLen := by
          rw [dataLen_placed, adjacent]
          exact Nat.lt_of_le_of_ne grows.1 moved.symm
        rw [placeAll, l2_placeAll_of_lt later kept behind, leadingTags_of_other moves tagged]
        rfl

/-! ## Frames that never shrink -/

theorem neverShrinks_append_iff :
    NeverShrinks offset (front ++ back) ↔
      NeverShrinks offset front ∧ NeverShrinks (reach offset front) back := by
  induction front generalizing offset with
  | nil => exact (and_iff_right trivial).symm
  | cons layer front ih => exact (and_congr_right fun _ => ih).trans and_assoc.symm

/-- In a buffer whose capacity is a machine word, a frame that no payload cuts never shrinks. -/
theorem neverShrinks_of_neverCuts {capacity : Nat} (grows : NeverCuts offset layers)
    (room : RoomFor capacity offset layers) (used : offset ≤ capacity)
    (word : capacity < Limits.wordBound) : NeverShrinks offset layers := by
  induction layers generalizing offset with
  | nil => trivial
  | cons layer rest ih =>
    exact ⟨le_target grows.1 (Nat.le_refl offset) (Nat.lt_of_le_of_lt used word),
      ih grows.2 room.2 room.1⟩

/-! ## The first Ethernet header -/

/-- The record is that of the first Ethernet header, with the tags that follow. -/
theorem l2_placeAll_of_first (blank : frame.l2 = none) (grows : NeverShrinks frame.dataLen layers)
    (first : FirstOf [.ether] layers front layer back) :
    (placeAll layers frame).l2 =
      some ⟨reach frame.dataLen front,
        14 + 4 * leadingTags (reach frame.dataLen front + 14) back⟩ := by
  obtain ⟨rfl, ethernet, others⟩ := first
  have unrecorded : (placeAll front frame).l2 = none :=
    l2_placeAll_of_none blank fun other member same =>
      others other member (List.mem_singleton.2 same)
  cases layer with
  | ether header =>
    have recorded : ((ether header).placed (placeAll front frame)).l2 =
        some ⟨(placeAll front frame).dataLen, 14⟩ :=
      congrArg (· <|> some _) unrecorded
    have reached : ((ether header).placed (placeAll front frame)).dataLen =
        reach frame.dataLen front + 14 :=
      (dataLen_placed _ _).trans (congrArg (· + 14) (dataLen_placeAll front frame))
    have behind : NeverShrinks ((ether header).placed (placeAll front frame)).dataLen back := by
      rw [reached]
      exact (neverShrinks_append_iff.1 grows).2.2
    rw [placeAll_append, placeAll, l2_placeAll_of_eq behind recorded, reached, dataLen_placeAll]
    rw [dataLen_placed]
    rfl
  | vlan tag _ => cases tag <;> cases List.mem_singleton.1 ethernet
  | _ => cases List.mem_singleton.1 ethernet

theorem l2_placeAll_eq_none_iff (blank : frame.l2 = none)
    (grows : NeverShrinks frame.dataLen layers) :
    (placeAll layers frame).l2 = none ↔ ∀ layer ∈ layers, layer.kind ∉ [.ether] := by
  constructor
  · intro unrecorded layer member ethernet
    obtain ⟨front, first, back, place⟩ := exists_firstOf member ethernet
    rw [l2_placeAll_of_first blank grows place] at unrecorded
    cases unrecorded
  · intro others
    exact l2_placeAll_of_none blank fun layer member same =>
      others layer member (List.mem_singleton.2 same)

end Layer

/-! ## Descriptions -/

open Layer in
/-- The records of an encoded frame belong to the first IP header, the first UDP or TCP header, the
last timestamp marker, and, unless a payload cuts the frame, the first Ethernet header with the tags
that follow it, where layers that add no bytes do not count.  They start where their layers start,
and there is none exactly if there is no such layer.  Lengths are counted in machine words, so that
no buffer is larger than the largest word. -/
theorem Frame.headers_of_encode {config : Config} {frame : Frame}
    (success : (frame.encode config).result = .ok ()) :
    ∃ final layers, (frame.encode config).state = final ∧
      ofDescription frame.text = .ok layers ∧
      ((∀ front layer back, FirstOf [.ipv4, .ipv6] layers front layer back →
          final.l3 = some ⟨reach 0 front, if layer.kind = .ipv4 then 20 else 40⟩) ∧
        (final.l3 = none ↔ ∀ layer ∈ layers, layer.kind ∉ [.ipv4, .ipv6])) ∧
      ((∀ front layer back, FirstOf [.udp, .tcp] layers front layer back →
          final.l4 = some ⟨reach 0 front, if layer.kind = .udp then 8 else 20⟩) ∧
        (final.l4 = none ↔ ∀ layer ∈ layers, layer.kind ∉ [.udp, .tcp])) ∧
      ((∀ front layer back, LastOf [.tsc] layers front layer back →
          final.tscOffset = some (reach 0 front)) ∧
        (final.tscOffset = none ↔ ∀ layer ∈ layers, layer.kind ∉ [.tsc])) ∧
      (frame.capacity < Limits.wordBound → NeverCuts 0 layers →
        (∀ front layer back, FirstOf [.ether] layers front layer back →
            final.l2 = some ⟨reach 0 front, 14 + 4 * leadingTags (reach 0 front + 14) back⟩) ∧
          (final.l2 = none ↔ ∀ layer ∈ layers, layer.kind ∉ [.ether])) := by
  obtain ⟨layers, spelled, built⟩ := Frame.encode_eq_ok.1 ⟨success, rfl⟩
  refine ⟨_, layers, rfl, spelled, ?_⟩
  generalize (frame.encode config).state = final at built ⊢
  have used : frame.reset.dataLen ≤ frame.reset.capacity := Nat.zero_le _
  -- The way back leaves all records as the way down has made them.
  obtain ⟨marker, extents⟩ := records_of_build built used
  have l2 : final.l2 = (placeAll layers frame.reset).l2 := extents .link
  have l3 : final.l3 = (placeAll layers frame.reset).extent? .network := extents .network
  have l4 : final.l4 = (placeAll layers frame.reset).extent? .transport := extents .transport
  have network : ∀ kind, HeaderLevel.network.counts kind = true ↔ kind ∈ [.ipv4, .ipv6] := by
    intro kind
    cases kind <;> decide
  have transport : ∀ kind, HeaderLevel.transport.counts kind = true ↔ kind ∈ [.udp, .tcp] := by
    intro kind
    cases kind <;> decide
  have aboveNetwork : HeaderLevel.network ≠ .link := by decide
  have aboveTransport : HeaderLevel.transport ≠ .link := by decide
  rw [l2, l3, l4, marker]
  refine ⟨⟨?_, extent?_placeAll_eq_none_iff aboveNetwork rfl network⟩,
    ⟨?_, extent?_placeAll_eq_none_iff aboveTransport rfl transport⟩,
    ⟨fun front layer back last => tscOffset_placeAll_of_last last,
      tscOffset_placeAll_eq_none_iff rfl⟩, ?_⟩
  · intro front layer back first
    rw [extent?_placeAll_of_first aboveNetwork rfl network first, length_of_network first.2.1]
    rfl
  · intro front layer back first
    rw [extent?_placeAll_of_first aboveTransport rfl transport first,
      length_of_transport first.2.1]
    rfl
  · intro word grows
    have capacity : frame.reset.capacity < Limits.wordBound := by
      rw [show frame.reset.capacity = frame.capacity from List.length_replicate]
      exact word
    have room := (buildable_iff.1 ((exists_build_iff used).1 ⟨_, built⟩)).1
    have lengthens : NeverShrinks frame.reset.dataLen layers :=
      neverShrinks_of_neverCuts grows room used capacity
    exact ⟨fun front layer back first => l2_placeAll_of_first rfl lengthens first,
      l2_placeAll_eq_none_iff rfl lengthens⟩

open Layer in
/-- An outer header whose two tags are kept apart by layers without bytes, and an inner header with
a tag of its own. -/
theorem Frame.headers_of_encode_tunnel :
    let frame := Frame.new []
      ("Ether()/Echo()/Dot1ad()/Raw('')/Dot1q()/IPv4()/UDP()/VXLAN()/".toList ++
        "Ether()/Dot1q()/IPv6()/TCP()/TSC()/TSC(val=2)/Payload(append=10)".toList) 200
    (frame.encode {}).result = .ok () ∧ frame.capacity < Limits.wordBound ∧
      (frame.encode {}).state.l2 = some ⟨0, 22⟩ ∧ (frame.encode {}).state.l3 = some ⟨22, 20⟩ ∧
      (frame.encode {}).state.l4 = some ⟨42, 8⟩ ∧ (frame.encode {}).state.tscOffset = some 148 := by
  intro frame
  have success : (frame.encode {}).result = .ok () := by decide +kernel
  have word : frame.capacity < Limits.wordBound := by decide +kernel
  let outer : List Layer := [echo, vlan .service (.ofFields 1 7 false), raw [],
    vlan .customer (.ofFields 1 7 false)]
  let inner : List Layer := [ether {}, vlan .customer (.ofFields 1 7 false), ipv6 {} none, tcp {},
    tsc {}]
  have read : ofDescription frame.text = .ok (ether {} :: outer ++
      [ipv4 {} none, udp none none, vxlan {}] ++ inner ++ [tsc ⟨2⟩, payload (.append 10) 0x25]) := by
    decide +kernel
  obtain ⟨final, layers, rfl, spelled, ⟨network, -⟩, ⟨transport, -⟩, ⟨marker, -⟩, link⟩ :=
    Frame.headers_of_encode success
  obtain rfl := Except.ok.inj (spelled.symm.trans read)
  have ethernet := (link word (by decide +kernel)).1 [] (ether {}) _ ⟨rfl, by decide, by decide⟩
  have ip := network (ether {} :: outer) (ipv4 {} none) _ ⟨rfl, by decide, by decide⟩
  have datagram := transport (ether {} :: outer ++ [ipv4 {} none]) (udp none none) _
    ⟨rfl, by decide, by decide⟩
  have last := marker (ether {} :: outer ++ [ipv4 {} none, udp none none, vxlan {}] ++ inner)
    (tsc ⟨2⟩) [payload (.append 10) 0x25] ⟨rfl, by decide, by decide⟩
  exact ⟨success, word, ethernet, ip, datagram, last⟩

end FrameText
