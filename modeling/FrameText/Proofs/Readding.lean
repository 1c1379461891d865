import FrameText.Proofs.LoadedText
import FrameText.Proofs.RoundTrip
import FrameText.Proofs.StoreRuns

/-!
# Readding — stored frames that are added again from their own text

The text of a dissected frame may be twice as long as a description that a store takes.  Up to that
limit a store that has encoded a frame takes it back from its text, under any other name.

1. `Frame.exists_walk_of_encode` finds the headers of an encoded frame, which all carry derived
   values.
2. `Store.add_decodedText` adds the text of such headers to a store, `Store.add_decodedText_long`
   says when it is refused.
3. `Store.add_decoded` says so of every frame of every store that was encoded last.
-/

namespace FrameText

open Bytes Layer Text

/-! ## The text of an encoded frame -/

/-- The readers find their way through an encoded frame that starts with Ethernet, names no layer
that does not follow and is not cut; all headers that they find carry derived values, and
dissection has room for their text. -/
theorem Frame.exists_walk_of_encode {config : Config} {frame : Frame} {layers : List Layer}
    (success : (frame.encode config).result = .ok ())
    (spelled : ofDescription frame.text = .ok layers) (ethernet : firstKind layers = some .ether)
    (honest : NeverMisleads layers) (grows : NeverCuts 0 layers) {data : Bytes}
    (same : data = (frame.encode config).state.data) :
    60 ≤ data.length ∧ data.length ≤ 1514 ∧ ∃ headers rest, Walk .ether data headers rest ∧
      Consistent none headers data ∧ ∀ context : DecodeContext,
        (context.decode data .ether).1 = .ok (decodedText headers data.length rest) := by
  rcases Frame.encode_eq_ok.1 ⟨success, rfl⟩ with ⟨found, again, built⟩
  obtain rfl := Except.ok.inj (spelled.symm.trans again)
  have used : frame.reset.dataLen ≤ frame.reset.capacity := Nat.zero_le _
  have reached : data.length = Limits.clamp (reach 0 layers) := by
    rw [same]
    exact (length_data_of_build built used).trans (dataLen_of_build built used)
  rcases Limits.clamp_bounds (reach 0 layers) with ⟨least, most⟩
  rw [← reached] at least most
  have few := length_of_ofDescription spelled
  have stands := stands_of_build built rfl grows
  rw [← same] at stands
  have buildable : Buildable frame.reset.capacity 0 layers :=
    (exists_build_iff used).1 ⟨_, built⟩
  -- Headers have at most 40 bytes, so that those of 31 layers end within the limits of Ethernet.
  obtain ⟨headers, rest, walk, consistent, bounded⟩ : ∃ headers rest,
      Walk .ether data headers rest ∧ Consistent none headers data ∧
        headers.length ≤ layers.length + 1 :=
    exists_walk stands (unset_of_ofDescription spelled) buildable honest grows
      (.inr ⟨.ether, ethernet, rfl⟩) (by simp) (by rw [Nat.zero_add, reached]) (by omega)
  have nonempty : data ≠ [] := List.ne_nil_of_length_pos (by omega)
  -- The text is shorter than what dissection may write: 4 · 1514 + 60 · 32 + 90 < 8192.
  have short := length_decodedText_le walk most
  exact ⟨least, most, headers, rest, walk, consistent,
    fun context => decode_of_walk nonempty walk (by omega)⟩

namespace Store

/-! ## Adding the text -/

section Adding

variable {store : Store} {data rest : Bytes} {headers : List FoundHeader} {name : Text}

/-- A frame is added from the text of its headers, with the same bytes, if they carry derived
values and the store takes a text of this length. -/
theorem add_decodedText (walk : Walk .ether data headers rest)
    (consistent : Consistent none headers data) (least : 60 ≤ data.length)
    (most : data.length ≤ 1514) (room : data.length ≤ store.config.frameSize)
    (few : (layerTexts (decodedText headers data.length rest)).length ≤ 31)
    (named : trim name ≠ []) (short : byteLength (trim name) ≤ 32)
    (fresh : ∀ other ∈ store.frames, other.name ≠ trim name)
    (fits : byteLength (decodedText headers data.length rest) ≤ 4096) :
    ∃ again, (store.add name (decodedText headers data.length rest)).result = .ok again ∧
      again.name = trim name ∧ again.data = data ∧
      (store.add name (decodedText headers data.length rest)).state =
        { store with frames := store.frames ++ [again] } := by
  have small : data.length + 4 < Limits.wordBound := by
    rw [Limits.wordBound]
    omega
  have phrase := (@isPhrase_decodedText headers data.length rest small).1
  generalize shown : decodedText headers data.length rest = text at few fits phrase
  let blank := Frame.new (trim name) (trim text) store.config.frameSize
  have capacity : blank.capacity = store.config.frameSize := List.length_replicate
  have described : blank.text = decodedText headers data.length rest :=
    phrase.trimmed.trans shown.symm
  obtain ⟨success, same⟩ := (@encode_decodedText_iff_of_fits store.config blank data rest headers
    walk least most (shown ▸ few) described (capacity ▸ room)).2 consistent
  have built := build_of_encode named short (phrase.trimmed.symm ▸ phrase.nonempty)
    (phrase.trimmed.symm ▸ fits) success
  obtain ⟨result, state⟩ := add_of_fresh store name text fresh
  rw [built] at result state
  exact ⟨_, result, (blank.encode_keeps store.config).name, same, state⟩

/-- A text that is longer than a description may be is refused, and nothing is changed. -/
theorem add_decodedText_long (small : data.length + 4 < Limits.wordBound)
    (named : trim name ≠ []) (short : byteLength (trim name) ≤ 32)
    (fresh : ∀ other ∈ store.frames, other.name ≠ trim name)
    (long : 4096 < byteLength (decodedText headers data.length rest)) :
    (store.add name (decodedText headers data.length rest)).result =
        .error (.textTooLong (byteLength (decodedText headers data.length rest)) 4096) ∧
      (store.add name (decodedText headers data.length rest)).state = store := by
  have phrase := (@isPhrase_decodedText headers data.length rest small).1
  generalize decodedText headers data.length rest = text at long phrase
  have refused := @build_of_long store.config name text named short
    (phrase.trimmed.symm ▸ phrase.nonempty) (phrase.trimmed.symm ▸ long)
  rw [phrase.trimmed] at refused
  obtain ⟨result, state⟩ := add_of_fresh store name text fresh
  rw [refused] at result state
  exact ⟨result, state⟩

end Adding

/-! ## All stored frames -/

/-- A stored frame whose contents were encoded last is dissected into a text, if it starts with
Ethernet, names no layer that does not follow and is not cut.  Unless the text has more layers than
a description may have, the store takes it under every valid name that no frame has: up to 4096
bytes of text, it adds a frame with the same bytes, and it refuses a longer text. -/
theorem add_decoded (config : Config) (room : Nat) (operations : List Operation) {frame : Frame}
    (stored : frame ∈ ((create config room).state.run operations).frames)
    (encoded : ((create config room).state.history [] operations).lookup frame.name =
      some .encoded) :
    ∃ store layers, store = (create config room).state.run operations ∧
      ofDescription frame.text = .ok layers ∧
      (firstKind layers = some .ether → NeverMisleads layers → NeverCuts 0 layers →
        ∃ text, (∀ context : DecodeContext, (context.decode frame.data .ether).1 = .ok text) ∧
          ((layerTexts text).length ≤ 31 → ∀ name, trim name ≠ [] → byteLength (trim name) ≤ 32 →
            (∀ other ∈ store.frames, other.name ≠ trim name) →
            (byteLength text ≤ 4096 →
              ∃ again, (store.add name text).result = .ok again ∧ again.name = trim name ∧
                again.data = frame.data ∧
                (store.add name text).state = { store with frames := store.frames ++ [again] }) ∧
            (4096 < byteLength text →
              (store.add name text).result = .error (.textTooLong (byteLength text) 4096) ∧
                (store.add name text).state = store))) := by
  have sound := sound_run (sound_create config room) operations
  have admissible := sound.admissible frame stored
  have came := sound.origins frame stored
  rw [encoded] at came
  obtain ⟨success, state⟩ : frame.Encoded config := came
  rcases Frame.encode_eq_ok.1 ⟨success, rfl⟩ with ⟨layers, spelled, -⟩
  generalize (create config room).state.run operations = store at sound
  refine ⟨store, layers, rfl, spelled, fun ethernet honest grows => ?_⟩
  have data : frame.data = _ := (congrArg Frame.data state).symm
  obtain ⟨least, most, headers, rest, walk, consistent, decoded⟩ :=
    Frame.exists_walk_of_encode success spelled ethernet honest grows data
  have fits : frame.data.length ≤ store.config.frameSize := by
    rw [sound.settings, ← admissible.capacity, Frame.data, List.length_take]
    exact Nat.le_trans (Nat.min_le_left _ _) admissible.used
  refine ⟨_, decoded, fun few name named short fresh => ⟨fun limit => ?_, fun long => ?_⟩⟩
  · exact add_decodedText walk consistent least most fits few named short fresh limit
  · refine add_decodedText_long ?_ named short fresh long
    rw [Limits.wordBound]
    omega

/-- A frame that bytes were loaded into before it was given a new description, in a store whose
buffers hold less than the longest frame. -/
theorem add_decoded_replaced :
    let empty := (create { frameSize := 60 } 0).state
    let operations : List Operation :=
      [.add "a".toList "Ether()".toList, .loadBytes "a".toList [1, 2, 3],
        .replace "a".toList "Ether()/IPv4(proto=41)/Raw('it\\'s')".toList]
    let store := empty.run operations
    ∃ frame ∈ store.frames, ∃ text again, decode frame.data .ether = .ok text ∧
      (store.add "b".toList text).result = .ok again ∧ again.data = frame.data := by
  intro empty operations store
  let frame := (store.find? "a".toList).getD (Frame.new [] [] 0)
  have stored : frame ∈ store.frames := by decide +kernel
  have encoded : (empty.history [] operations).lookup frame.name = some .encoded := by
    decide +kernel
  have read : ofDescription frame.text =
      .ok [ether {}, ipv4 {} (some (.custom 41)), raw [0x69, 0x74, 0x27, 0x73]] := by
    decide +kernel
  have fresh : ∀ other ∈ store.frames, other.name ≠ trim "b".toList := by decide +kernel
  have shown : (decode frame.data .ether).toOption.any (fun text =>
      decide ((layerTexts text).length ≤ 31 ∧ byteLength text ≤ 4096)) = true := by
    decide +kernel
  rcases add_decoded _ 0 operations stored encoded with ⟨_, layers, rfl, spelled, readds⟩
  obtain rfl := Except.ok.inj (spelled.symm.trans read)
  obtain ⟨text, decoded, added⟩ := readds rfl (by decide) (by decide)
  have single : decode frame.data .ether = .ok text := decoded {}
  rw [single] at shown
  obtain ⟨few, fits⟩ := of_decide_eq_true shown
  obtain ⟨again, result, -, same, -⟩ :=
    (added few "b".toList (by decide) (by decide) fresh).1 fits
  exact ⟨frame, stored, text, again, single, result, same⟩

/-- A frame of zero bytes, each of which takes four characters of text. -/
theorem add_decoded_long :
    let empty := (create { frameSize := 1514 } 0).state
    let operations : List Operation :=
      [.add "a".toList "Ether()/Payload(size=1518,fill=0)".toList]
    let store := empty.run operations
    let layers := [ether {}, payload (.wire 1518) 0]
    firstKind layers = some .ether ∧ NeverMisleads layers ∧ NeverCuts 0 layers ∧
      (∀ other ∈ store.frames, other.name ≠ trim "b".toList) ∧
      ∃ frame ∈ store.frames,
        (empty.history [] operations).lookup frame.name = some .encoded ∧
        ofDescription frame.text = .ok layers ∧
        ∃ text ∈ (decode frame.data .ether).toOption, (layerTexts text).length ≤ 31 ∧
          (store.add "b".toList text).result = .error (.textTooLong 6076 4096) := by
  decide +kernel

end Store

end FrameText
