import FrameText.Proofs.Acceptance
import FrameText.Proofs.Capacity
import FrameText.Proofs.FrameLength
import FrameText.Proofs.Trace

/-!
# Tag stacks — a repeated VLAN tag is the last thing that the encoder objects to

The encoder notices a tag in front of another of its kind on the way back only, when all layers have
been read and placed and the frame has its length.

1. `Error.IsMisspelling` and `Error.IsOverflow` are what can go wrong on the way down, which is said
   by `Call.GoesDown` to go well.
2. `exists_fault_of_stuck` says that they come before any tag, and `fault_of_encodeLayers` when the
   way back stops at one.
3. `Layer.lastRepeat_of_lastRepeat?` finds that tag in the text: of several, it is the last.
4. `Frame.encode_eq_repeatedTag_iff` puts this together for a description.
-/

namespace FrameText

open Encoding

/-! ## Definitions -/

/-- Whether a description is at fault for what its words say or how many they are. -/
def Error.IsWording (e : Error) : Prop :=
  e.isParseError = true ∨ (∃ max, e = .tooManyLayers max) ∨ ∃ text max, e = .tooManyParams text max

/-- Whether a layer is at fault for what its words say. -/
def Error.IsMisspelling (e : Error) : Prop :=
  e.isParseError = true ∨ ∃ text max, e = .tooManyParams text max

/-- Whether nothing fails on the way down from a call of the encoder: each layer is read and placed
behind those in front of it, and the frame gets the length that it ends with. -/
def Encoding.Call.GoesDown (call : Call) : Prop :=
  ∃ last, Calls call last ∧ last.tokens = [] ∧ (finishLength last.frame).result = .ok ()

/-- Whether a tag of this kind stands directly in front of another of its kind and no tag is
repeated behind it. -/
def LastRepeat (kinds : List (Option LayerKind)) (tag : VlanTag) : Prop :=
  ∃ front back, kinds = front ++ some tag.kind :: some tag.kind :: back ∧
    ∀ other : VlanTag, ¬ [some other.kind, some other.kind] <:+: some tag.kind :: back

/-! ## Errors of the way down -/

namespace Error

variable {e : Error}

theorem IsWording.ne_repeatedTag (wording : e.IsWording) (kind : LayerKind) :
    e ≠ .repeatedTag kind := by
  rintro rfl
  rcases wording with parse | ⟨_, layers⟩ | ⟨_, _, params⟩
  · cases parse
  · cases layers
  · cases params

theorem IsMisspelling.isWording (misspelled : e.IsMisspelling) : e.IsWording :=
  misspelled.imp id Or.inr

theorem IsMisspelling.ne_tooManyLayers (misspelled : e.IsMisspelling) (max : Nat) :
    e ≠ .tooManyLayers max := by
  rintro rfl
  rcases misspelled with parse | ⟨_, _, params⟩
  · cases parse
  · cases params

theorem IsOverflow.ne_repeatedTag (overflow : e.IsOverflow) (kind : LayerKind) :
    e ≠ .repeatedTag kind := by
  rintro rfl
  rcases overflow with ⟨_, _, room⟩
  cases room

end Error

/-! ## Words of a layer -/

section Wording

variable {key value params : Text} {e : Error}

theorem isMisspelling_of_number {bound : Nat} (failed : number bound key value = .error e) :
    e.IsMisspelling := by
  simp only [number] at failed
  split at failed
  · cases failed
    exact .inl rfl
  · split at failed
    · cases failed
    · cases failed
      exact .inl rfl

theorem isMisspelling_of_address {α : Type} {read? : Text → Option α}
    (failed : address read? key value = .error e) : e.IsMisspelling := by
  unfold address at failed
  split at failed
  · cases failed
  · cases failed
    exact .inl rfl

theorem isMisspelling_of_mapError {α ε : Type} {x : Except ε α} {blame : ε → Error}
    (wording : ∀ fault, (blame fault).IsMisspelling) (failed : x.mapError blame = .error e) :
    e.IsMisspelling := by
  cases x with
  | error fault =>
    cases failed
    exact wording fault
  | ok a => cases failed

theorem isMisspelling_of_macAddress (failed : MacAddress.parse value = .error e) :
    e.IsMisspelling :=
  isMisspelling_of_mapError (fun _ => .inl rfl) failed

theorem isMisspelling_of_protocol (failed : IpProtocol.parse value = .error e) :
    e.IsMisspelling := by
  simp only [IpProtocol.parse] at failed
  split at failed
  · cases failed
  · split at failed
    · cases failed
    · split at failed
      · cases failed
      · cases failed
        exact .inl rfl

/-- What is made of a result fails as the result does. -/
theorem isMisspelling_of_map {α β : Type} {x : Except Error α} {f : α → β}
    (wording : ∀ {fault}, x = .error fault → fault.IsMisspelling) (failed : f <$> x = .error e) :
    e.IsMisspelling := by
  cases x with
  | error fault =>
    cases failed
    exact wording rfl
  | ok a => cases failed

/-- A number that is narrowed to the width of its field. -/
theorem isMisspelling_of_narrowed {α : Type} {narrow : Nat → α} {bound : Nat}
    (failed : (number bound key value).map narrow = .error e) : e.IsMisspelling :=
  isMisspelling_of_map isMisspelling_of_number failed

/-- A field fails as its value does. -/
theorem isMisspelling_of_field {α β : Type} {x : Except Error α} {f : α → β}
    (wording : ∀ {fault}, x = .error fault → fault.IsMisspelling)
    (failed : (x >>= fun a => pure (f a)) = .error e) : e.IsMisspelling := by
  rcases bind_eq_error.1 failed with refused | ⟨_, -, done⟩
  · exact wording refused
  · cases done

theorem isMisspelling_of_splitPair {param : Text} (failed : splitPair param = .error e) :
    e.IsMisspelling := by
  unfold splitPair at failed
  split at failed
  · split at failed
    · cases failed
      exact .inl rfl
    · cases failed
  · cases failed
    exact .inl rfl

theorem isMisspelling_of_assignments (failed : assignments params = .error e) :
    e.IsMisspelling := by
  rcases bind_eq_error.1 failed with many | ⟨texts, -, unread⟩
  · simp only [splitParams] at many
    split at many
    · cases many
      exact .inr ⟨_, _, rfl⟩
    · cases many
  · obtain ⟨text, -, shape⟩ := exists_of_mapM_error unread
    exact isMisspelling_of_splitPair shape

/-- The parameters of a layer fail as their list does, or as one of them does. -/
theorem isMisspelling_of_assignAll {σ : Type} {assign : σ → Text → Text → Except Error σ}
    {defaults : σ}
    (step : ∀ {layer key value fault}, assign layer key value = .error fault → fault.IsMisspelling)
    (failed : Layer.assignAll assign defaults params = .error e) : e.IsMisspelling := by
  rcases bind_eq_error.1 failed with unread | ⟨pairs, -, stopped⟩
  · exact isMisspelling_of_assignments unread
  · obtain ⟨layer, pair, -, refused⟩ := exists_of_foldlM_error stopped
    exact step refused

end Wording

namespace Layer

variable {key value : Text} {e : Error}

theorem isMisspelling_of_assignEther {header : EthernetHeader}
    (failed : assignEther header key value = .error e) : e.IsMisspelling := by
  unfold assignEther at failed
  split at failed
  · exact isMisspelling_of_field isMisspelling_of_macAddress failed
  · exact isMisspelling_of_field isMisspelling_of_macAddress failed
  · cases failed
    exact .inl rfl

theorem isMisspelling_of_assignVlan {tag : VlanTag} {header : VlanHeader}
    (failed : assignVlan tag header key value = .error e) : e.IsMisspelling := by
  unfold assignVlan at failed
  split at failed
  iterate 3 · exact isMisspelling_of_field isMisspelling_of_narrowed failed
  cases failed
  exact .inl rfl

theorem isMisspelling_of_assignIPv4 {layer : IPv4Header × Option IpProtocol}
    (failed : assignIPv4 layer key value = .error e) : e.IsMisspelling := by
  unfold assignIPv4 at failed
  simp only at failed
  split at failed
  iterate 2 · exact isMisspelling_of_field isMisspelling_of_address failed
  iterate 3 · exact isMisspelling_of_field isMisspelling_of_narrowed failed
  · exact isMisspelling_of_field isMisspelling_of_protocol failed
  iterate 5 · cases failed
  cases failed
  exact .inl rfl

theorem isMisspelling_of_assignIPv6 {layer : IPv6Header × Option IpProtocol}
    (failed : assignIPv6 layer key value = .error e) : e.IsMisspelling := by
  unfold assignIPv6 at failed
  simp only at failed
  split at failed
  iterate 2 · exact isMisspelling_of_field isMisspelling_of_address failed
  · exact isMisspelling_of_field isMisspelling_of_narrowed failed
  · exact isMisspelling_of_field isMisspelling_of_protocol failed
  iterate 2 · cases failed
  cases failed
  exact .inl rfl

theorem isMisspelling_of_assignUdp {ports : Option UInt16 × Option UInt16}
    (failed : assignUdp ports key value = .error e) : e.IsMisspelling := by
  unfold assignUdp at failed
  split at failed
  iterate 2 · exact isMisspelling_of_field isMisspelling_of_narrowed failed
  iterate 2 · cases failed
  cases failed
  exact .inl rfl

theorem isMisspelling_of_assignTcp {header : TcpHeader}
    (failed : assignTcp header key value = .error e) : e.IsMisspelling := by
  unfold assignTcp at failed
  split at failed
  iterate 6 · exact isMisspelling_of_field isMisspelling_of_narrowed failed
  iterate 3 · cases failed
  cases failed
  exact .inl rfl

theorem isMisspelling_of_assignVxlan {header : VxlanHeader}
    (failed : assignVxlan header key value = .error e) : e.IsMisspelling := by
  unfold assignVxlan at failed
  split at failed
  · exact isMisspelling_of_field isMisspelling_of_narrowed failed
  · cases failed
  · cases failed
    exact .inl rfl

theorem isMisspelling_of_assignEcho {layer : Unit}
    (failed : assignEcho layer key value = .error e) : e.IsMisspelling := by
  cases failed
  exact .inl rfl

theorem isMisspelling_of_assignTsc {header : Timestamp}
    (failed : assignTsc header key value = .error e) : e.IsMisspelling := by
  unfold assignTsc at failed
  split at failed
  · exact isMisspelling_of_field isMisspelling_of_narrowed failed
  · cases failed
    exact .inl rfl

theorem isMisspelling_of_assignPayload {layer : PayloadSize × UInt8}
    (failed : assignPayload layer key value = .error e) : e.IsMisspelling := by
  unfold assignPayload at failed
  simp only at failed
  -- A size is read unless there is one already.
  cases found : Key.ofText? key with
  | none =>
    rw [found] at failed
    cases failed
    exact .inl rfl
  | some known =>
    rw [found] at failed
    cases known with
    | size | len | append =>
      by_cases sized : layer.1 = .unchanged
      · simp only [if_pos sized] at failed
        exact isMisspelling_of_field isMisspelling_of_number failed
      · simp only [if_neg sized] at failed
        cases failed
        exact .inl rfl
    | fill => exact isMisspelling_of_field isMisspelling_of_narrowed failed
    | _ =>
      cases failed
      exact .inl rfl

/-- A layer that cannot be read is at fault for its words. -/
theorem isMisspelling_of_ofToken {token : LayerToken} (failed : ofToken token = .error e) :
    e.IsMisspelling := by
  unfold ofToken at failed
  split at failed
  · exact isMisspelling_of_map (isMisspelling_of_assignAll isMisspelling_of_assignEther) failed
  · exact isMisspelling_of_map (isMisspelling_of_assignAll isMisspelling_of_assignVlan) failed
  · exact isMisspelling_of_map (isMisspelling_of_assignAll isMisspelling_of_assignVlan) failed
  · exact isMisspelling_of_map (isMisspelling_of_assignAll isMisspelling_of_assignIPv4) failed
  · exact isMisspelling_of_map (isMisspelling_of_assignAll isMisspelling_of_assignIPv6) failed
  · exact isMisspelling_of_map (isMisspelling_of_assignAll isMisspelling_of_assignUdp) failed
  · exact isMisspelling_of_map (isMisspelling_of_assignAll isMisspelling_of_assignTcp) failed
  · exact isMisspelling_of_map (isMisspelling_of_assignAll isMisspelling_of_assignVxlan) failed
  · exact isMisspelling_of_map (isMisspelling_of_assignAll isMisspelling_of_assignEcho) failed
  · exact isMisspelling_of_map (isMisspelling_of_assignAll isMisspelling_of_assignTsc) failed
  · exact isMisspelling_of_map (isMisspelling_of_mapError fun _ => .inl rfl) failed
  · exact isMisspelling_of_map (isMisspelling_of_assignAll isMisspelling_of_assignPayload) failed

end Layer

namespace Encoding

variable {verbose : Bool} {index : Nat} {e : Error}

theorem isMisspelling_of_scanLayers {texts : List Text}
    (failed : (scanLayers verbose index texts).1 = .error e) : e.IsMisspelling := by
  induction texts generalizing index e with
  | nil => cases failed
  | cons first rest ih =>
    unfold scanLayers at failed
    cases found : LayerToken.ofText? first with
    | none =>
      rw [found] at failed
      cases failed
      exact .inl rfl
    | some token =>
      rw [found] at failed
      exact isMisspelling_of_map ih failed

/-- A description is not recognised if it has too many layers, or for the words of one. -/
theorem fault_of_scan {text : Text} (failed : (scan verbose text).1 = .error e) :
    e = .tooManyLayers 31 ∧ 31 < (layerTexts text).length ∨ e.IsMisspelling := by
  unfold scan splitLayers at failed
  simp only at failed
  split at failed
  case h_1 fault refused =>
    split at refused
    case isTrue many =>
      cases refused
      cases failed
      exact .inl ⟨rfl, many⟩
    case isFalse => cases refused
  case h_2 =>
    cases failed
    exact .inr (.inl rfl)
  case h_3 => exact .inr (isMisspelling_of_scanLayers failed)

theorem isWording_of_scan {text : Text} (failed : (scan verbose text).1 = .error e) :
    e.IsWording := by
  rcases fault_of_scan failed with ⟨rfl, -⟩ | misspelled
  · exact .inr (.inl ⟨31, rfl⟩)
  · exact misspelled.isWording

end Encoding

/-! ## The way down -/

section Descent

variable {verbose : Bool} {index : Nat} {tokens : List LayerToken} {frame : Frame}

theorem finishLength_eq_ok_iff :
    (finishLength frame).result = .ok () ↔ Layer.RoomFor frame.capacity frame.dataLen [] := by
  rcases finishLength_eq frame with ⟨fine, finished⟩ | ⟨e, failed, unfinished⟩
  · exact iff_of_true fine (Frame.finish_eq_ok.1 finished).1
  · refine iff_of_false (fun fine => ?_) fun room => ?_
    · rw [failed] at fine
      cases fine
    · rw [Frame.finish_eq_ok.2 ⟨room, rfl⟩] at unfinished
      cases unfinished

/-- The way down goes well where all layers can be read and there is room for them. -/
theorem goesDown_iff (used : frame.dataLen ≤ frame.capacity) :
    Call.GoesDown ⟨index, tokens, frame⟩ ↔
      ∃ layers, tokens.mapM Layer.ofToken = .ok layers ∧
        Layer.RoomFor frame.capacity frame.dataLen layers := by
  induction tokens generalizing index frame with
  | nil =>
    constructor
    · rintro ⟨last, calls, -, fine⟩
      cases calls
      exact ⟨[], rfl, finishLength_eq_ok_iff.1 fine⟩
    · rintro ⟨layers, spelled, room⟩
      cases spelled
      exact ⟨_, .refl _, rfl, finishLength_eq_ok_iff.2 room⟩
  | cons token rest ih =>
    constructor
    · rintro ⟨last, calls, done, fine⟩
      cases calls with
      | refl => cases done
      | @step _ _ _ _ layer _ _ read down behind =>
        obtain ⟨fits, rfl⟩ := Layer.place_eq_ok.1 down
        obtain ⟨layers, spelled, room⟩ :=
          (ih (Layer.used_placed fits used)).1 ⟨last, behind, done, fine⟩
        rw [Layer.dataLen_placed, Layer.capacity_placed fits used] at room
        exact ⟨layer :: layers, mapM_cons_eq_ok.2 ⟨layer, layers, read, spelled, rfl⟩, fits, room⟩
    · rintro ⟨_, spelled, fits⟩
      obtain ⟨layer, layers, read, others, rfl⟩ := mapM_cons_eq_ok.1 spelled
      rcases fits with ⟨fits, room⟩
      rw [← @Layer.dataLen_placed layer frame, ← Layer.capacity_placed fits used] at room
      obtain ⟨last, behind, done, fine⟩ :=
        (@ih (index + 1) _ (Layer.used_placed fits used)).2 ⟨layers, others, room⟩
      exact ⟨last, .step read (Layer.place_eq fits) behind, done, fine⟩

/-- What fails on the way down is reported, whatever tags are repeated. -/
theorem exists_fault_of_stuck (used : frame.dataLen ≤ frame.capacity)
    (stuck : ¬ ∃ layers, tokens.mapM Layer.ofToken = .ok layers ∧
      Layer.RoomFor frame.capacity frame.dataLen layers) :
    ∃ e, (encodeLayers verbose index tokens frame).result = .error e ∧
      (e.IsMisspelling ∨ e.IsOverflow) := by
  induction tokens generalizing index frame with
  | nil =>
    rw [encodeLayers_nil, Outcome.result_after]
    rcases finishLength_eq frame with ⟨fine, -⟩ | ⟨fault, faulty, unfinished⟩
    · exact absurd ⟨[], rfl, finishLength_eq_ok_iff.1 fine⟩ stuck
    · exact ⟨fault, (Outcome.andThen_of_error faulty).1, .inr (isOverflow_of_finish unfinished)⟩
  | cons token rest ih =>
    cases read : Layer.ofToken token with
    | error fault =>
      exact ⟨fault, by rw [encodeLayers_of_unread read], .inl (Layer.isMisspelling_of_ofToken read)⟩
    | ok layer =>
      cases down : layer.place frame with
      | error fault =>
        exact ⟨fault, by rw [encodeLayers_of_unplaced read down], .inr (isOverflow_of_place down)⟩
      | ok reached =>
        obtain ⟨fits, rfl⟩ := Layer.place_eq_ok.1 down
        -- This layer is placed, so that it is the layers behind it that are stuck.
        have behind : ¬ ∃ layers, rest.mapM Layer.ofToken = .ok layers ∧
            Layer.RoomFor (layer.placed frame).capacity (layer.placed frame).dataLen layers := by
          rintro ⟨layers, spelled, room⟩
          rw [Layer.dataLen_placed, Layer.capacity_placed fits used] at room
          exact stuck ⟨layer :: layers, mapM_cons_eq_ok.2 ⟨layer, layers, read, spelled, rfl⟩,
            fits, room⟩
        obtain ⟨e, failed, fault⟩ := @ih (index + 1) _ (Layer.used_placed fits used) behind
        refine ⟨e, ?_, fault⟩
        rw [encodeLayers_of_placed read down, Outcome.result_after,
          (Outcome.andThen_of_error failed).1]

/-- The encoder fails on the way down, or for a tag on the way back, which is the last one that is
repeated. -/
theorem fault_of_encodeLayers {e : Error} (used : frame.dataLen ≤ frame.capacity)
    (failed : (encodeLayers verbose index tokens frame).result = .error e) :
    (e.IsMisspelling ∨ e.IsOverflow) ∨
      ∃ layers kind, e = .repeatedTag kind ∧ tokens.mapM Layer.ofToken = .ok layers ∧
        Layer.RoomFor frame.capacity frame.dataLen layers ∧
        Layer.lastRepeat? layers = some kind := by
  by_cases down : ∃ layers, tokens.mapM Layer.ofToken = .ok layers ∧
      Layer.RoomFor frame.capacity frame.dataLen layers
  · obtain ⟨layers, spelled, room⟩ := down
    -- Layers that are read and have room can only be stopped by a tag.
    cases repeats : Layer.lastRepeat? layers with
    | none =>
      obtain ⟨final, built⟩ :=
        (Layer.exists_build_iff used).2 (Layer.buildable_iff.2 ⟨room, repeats⟩)
      rw [(encodeLayers_of_build spelled built).1] at failed
      cases failed
    | some tag =>
      rw [encodeLayers_of_build_error spelled (Layer.build_of_repeat used room repeats)] at failed
      cases failed
      exact .inr ⟨layers, tag, rfl, spelled, room, repeats⟩
  · obtain ⟨fault, stopped, why⟩ := @exists_fault_of_stuck verbose index tokens frame used down
    cases stopped.symm.trans failed
    exact .inl why

theorem exists_layers_of_repeatedTag {kind : LayerKind} (used : frame.dataLen ≤ frame.capacity)
    (failed : (encodeLayers verbose index tokens frame).result = .error (.repeatedTag kind)) :
    ∃ layers, tokens.mapM Layer.ofToken = .ok layers ∧
      Layer.RoomFor frame.capacity frame.dataLen layers ∧ Layer.lastRepeat? layers = some kind := by
  rcases fault_of_encodeLayers used failed with (misspelled | overflow) | ⟨layers, _, same, found⟩
  · exact absurd rfl (misspelled.isWording.ne_repeatedTag kind)
  · exact absurd rfl (overflow.ne_repeatedTag kind)
  · cases same
    exact ⟨layers, found⟩

end Descent

/-! ## The last repeat -/

/-- The tag that a build stops at is the last one in front of another of its kind. -/
theorem Layer.lastRepeat_of_lastRepeat? {layers : List Layer} {kind : LayerKind}
    (repeats : lastRepeat? layers = some kind) :
    ∃ tag : VlanTag, kind = tag.kind ∧ LastRepeat ((layers.map Layer.kind).map some) tag := by
  induction layers with
  | nil => cases repeats
  | cons layer rest ih =>
    rw [lastRepeat?] at repeats
    cases later : lastRepeat? rest with
    | some other =>
      rw [later] at repeats
      cases repeats
      obtain ⟨tag, rfl, front, back, kinds, single⟩ := ih later
      refine ⟨tag, rfl, some layer.kind :: front, back, ?_, single⟩
      rw [List.map_cons, List.map_cons, kinds, List.cons_append]
    | none =>
      rw [later] at repeats
      obtain ⟨tag, rfl, here, next⟩ := repeated?_eq_some.1 repeats
      cases rest with
      | nil => cases next
      | cons follower others =>
        have second : follower.kind = tag.kind := Option.some.inj next
        refine ⟨tag, rfl, [], (others.map Layer.kind).map some, ?_, fun other pair => ?_⟩
        · rw [List.map_cons, List.map_cons, List.map_cons, List.map_cons, here, second]
          rfl
        · refine not_pair_infix_of_lastRepeat? other later ?_
          rw [show some tag.kind = some follower.kind from congrArg some second.symm] at pair
          exact pair_infix_map_some.1 pair

/-! ## Descriptions -/

namespace Encoding

variable {verbose : Bool} {index : Nat} {tokens : List LayerToken}

theorem scanLayers_eq_ok_iff {texts : List Text} :
    (scanLayers verbose index texts).1 = .ok tokens ↔
      texts.map LayerToken.ofText? = tokens.map some := by
  refine ⟨fun found => ?_, fun known => congrArg Prod.fst (scanLayers_of_known known)⟩
  induction texts generalizing index tokens with
  | nil =>
    cases found
    rfl
  | cons first rest ih =>
    unfold scanLayers at found
    cases read : LayerToken.ofText? first with
    | none =>
      rw [read] at found
      cases found
    | some token =>
      rw [read] at found
      obtain ⟨others, behind, rfl⟩ := map_eq_ok.1 found
      rw [List.map_cons, List.map_cons, read, ih behind]

/-- A description is recognised where it has 1 to 31 layers, all of known kinds. -/
theorem scan_eq_ok_iff {text : Text} :
    (scan verbose text).1 = .ok tokens ↔
      (layerTexts text).map LayerToken.ofText? = tokens.map some ∧
        1 ≤ tokens.length ∧ tokens.length ≤ 31 := by
  constructor
  · intro found
    -- Without too many texts and with at least one, all of them have been recognised.
    have layers : (scanLayers verbose 0 (layerTexts text)).1 = .ok tokens ∧
        layerTexts text ≠ [] ∧ (layerTexts text).length ≤ 31 := by
      unfold scan splitLayers at found
      by_cases many : Limits.maxLayers < (layerTexts text).length
      · simp only [if_pos many] at found
        cases found
      · simp only [if_neg many] at found
        cases texts : layerTexts text with
        | nil =>
          rw [texts] at found
          cases found
        | cons first rest =>
          rw [texts] at found many
          exact ⟨found, List.cons_ne_nil first rest, Nat.le_of_not_lt many⟩
    obtain ⟨scanned, nonempty, few⟩ := layers
    have known := scanLayers_eq_ok_iff.1 scanned
    have count : (layerTexts text).length = tokens.length := by
      simpa using congrArg List.length known
    rw [count] at few
    exact ⟨known, count ▸ List.length_pos_iff.2 nonempty, few⟩
  · rintro ⟨known, least, most⟩
    have few : ¬ Limits.maxLayers < tokens.length := Nat.not_lt_of_le most
    rw [scan_of_known known, if_neg few, if_neg (List.length_pos_iff.1 least)]

end Encoding

/-- The layers that are recognised are those that the text shows. -/
theorem layerKinds_of_known {text : Text} {tokens : List LayerToken}
    (known : (layerTexts text).map LayerToken.ofText? = tokens.map some) :
    layerKinds text = (tokens.map LayerToken.kind).map some := by
  have kinds := congrArg (List.map (Option.map LayerToken.kind)) known
  rw [List.map_map, List.map_map] at kinds
  rw [List.map_map]
  exact kinds

namespace Frame

variable {config : Config} {frame : Frame} {tokens : List LayerToken} {kind : LayerKind}

theorem encode_eq_repeatedTag :
    (frame.encode config).result = .error (.repeatedTag kind) ↔
      ∃ tokens layers, (scan config.verbose frame.text).1 = .ok tokens ∧
        tokens.mapM Layer.ofToken = .ok layers ∧
        Layer.RoomFor frame.reset.capacity frame.reset.dataLen layers ∧
        Layer.lastRepeat? layers = some kind := by
  have used : frame.reset.dataLen ≤ frame.reset.capacity := Nat.zero_le _
  cases found : (scan config.verbose frame.text).1 with
  | error e =>
    rw [encode_of_unscanned found]
    constructor
    · intro failed
      cases failed
      exact absurd rfl ((isWording_of_scan found).ne_repeatedTag kind)
    · rintro ⟨tokens, layers, scanned, -⟩
      cases scanned
  | ok tokens =>
    rw [encode_eq_error found]
    constructor
    · intro failed
      obtain ⟨layers, spelled, room, repeats⟩ := exists_layers_of_repeatedTag used failed
      exact ⟨tokens, layers, rfl, spelled, room, repeats⟩
    · rintro ⟨_, layers, same, spelled, room, repeats⟩
      cases same
      exact encodeLayers_of_build_error spelled (Layer.build_of_repeat used room repeats)

/-- The encoder objects to a stack of tags exactly where the description has 1 to 31 layers, all of
known kinds, nothing fails on the way down, and some tag stands directly in front of another of its
kind.  It names the last such tag, and no description with one is ever encoded. -/
theorem encode_eq_repeatedTag_iff (config : Config) (frame : Frame) :
    ((∃ kind, (frame.encode config).result = .error (.repeatedTag kind)) ↔
      ∃ tokens, (layerTexts frame.text).map LayerToken.ofText? = tokens.map some ∧
        1 ≤ tokens.length ∧ tokens.length ≤ 31 ∧ Call.GoesDown ⟨0, tokens, frame.reset⟩ ∧
        RepeatsTag frame.text) ∧
      (∀ kind, (frame.encode config).result = .error (.repeatedTag kind) →
        ∃ tag : VlanTag, kind = tag.kind ∧ LastRepeat (layerKinds frame.text) tag ∧
          (Error.repeatedTag kind).message =
            "Invalid layer sequence: ".toList ++ tag.kind.name ++ " cannot be followed by ".toList ++
              tag.kind.name) ∧
      (RepeatsTag frame.text → (frame.encode config).result ≠ .ok ()) := by
  have used : frame.reset.dataLen ≤ frame.reset.capacity := Nat.zero_le _
  -- The kinds in the text are those of the layers that are read.
  have kinds : ∀ {tokens layers}, (scan config.verbose frame.text).1 = .ok tokens →
      tokens.mapM Layer.ofToken = .ok layers →
      layerKinds frame.text = (layers.map Layer.kind).map some := by
    intro tokens layers scanned spelled
    rw [layerKinds_of_known (scan_eq_ok_iff.1 scanned).1, LayerToken.kinds_of_mapM spelled]
  -- A description with a repeated tag has one that is the last.
  have last : ∀ {tokens layers}, (scan config.verbose frame.text).1 = .ok tokens →
      tokens.mapM Layer.ofToken = .ok layers → RepeatsTag frame.text →
      ∃ kind, Layer.lastRepeat? layers = some kind := by
    rintro tokens layers scanned spelled ⟨tag, pair⟩
    rw [kinds scanned spelled, pair_infix_map_some] at pair
    refine Option.ne_none_iff_exists'.1 fun single => ?_
    exact Layer.not_pair_infix_of_lastRepeat? tag single pair
  refine ⟨⟨?_, ?_⟩, ?_, ?_⟩
  · rintro ⟨kind, failed⟩
    obtain ⟨tokens, layers, scanned, spelled, room, repeats⟩ := encode_eq_repeatedTag.1 failed
    obtain ⟨known, least, most⟩ := scan_eq_ok_iff.1 scanned
    obtain ⟨tag, -, pair⟩ := Layer.exists_tag_of_lastRepeat? repeats
    refine ⟨tokens, known, least, most, (goesDown_iff used).2 ⟨layers, spelled, room⟩, tag, ?_⟩
    rw [kinds scanned spelled]
    exact pair_infix_map_some.2 pair
  · rintro ⟨tokens, known, least, most, down, repeated⟩
    have scanned := (@scan_eq_ok_iff config.verbose tokens frame.text).2 ⟨known, least, most⟩
    obtain ⟨layers, spelled, room⟩ := (goesDown_iff used).1 down
    obtain ⟨kind, repeats⟩ := last scanned spelled repeated
    exact ⟨kind, encode_eq_repeatedTag.2 ⟨tokens, layers, scanned, spelled, room, repeats⟩⟩
  · intro kind failed
    obtain ⟨tokens, layers, scanned, spelled, -, repeats⟩ := encode_eq_repeatedTag.1 failed
    obtain ⟨tag, rfl, place⟩ := Layer.lastRepeat_of_lastRepeat? repeats
    rw [← kinds scanned spelled] at place
    exact ⟨tag, rfl, place, rfl⟩
  · intro repeated success
    obtain ⟨layers, read, built⟩ := encode_eq_ok.1 ⟨success, rfl⟩
    obtain ⟨tokens, scanned, spelled⟩ := bind_eq_ok.1 read
    rw [← scan_result config.verbose] at scanned
    obtain ⟨kind, repeats⟩ := last scanned spelled repeated
    -- Layers that can be built repeat no tag.
    have single := (Layer.buildable_iff.1 ((Layer.exists_build_iff used).1 ⟨_, built⟩)).2
    cases repeats.symm.trans single

/-- Of two stacks the second one is named. -/
theorem encode_two_stacks :
    let frame := Frame.new [] "Ether()/Dot1q()/Dot1q(vlan=2)/IPv4()/Dot1ad()/Dot1ad()".toList 60
    RepeatsTag frame.text ∧ (frame.encode {}).result ≠ .ok () ∧
      (frame.encode {}).result = .error (.repeatedTag .dot1ad) ∧
      LastRepeat (layerKinds frame.text) .service := by
  intro frame
  have failed : (frame.encode {}).result = .error (.repeatedTag .dot1ad) := by decide +kernel
  have repeated : RepeatsTag frame.text := by
    refine ⟨.customer, [some .ether], [some .ipv4, some .dot1ad, some .dot1ad], ?_⟩
    decide +kernel
  obtain ⟨-, named, refused⟩ := encode_eq_repeatedTag_iff {} frame
  obtain ⟨tag, same, place, -⟩ := named _ failed
  have service : tag = .service := by
    cases tag with
    | customer => cases same
    | service => rfl
  exact ⟨repeated, refused repeated, failed, service ▸ place⟩

end Frame

end FrameText
