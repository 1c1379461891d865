import FrameText.Proofs.DissectedText
import Mathlib.Control.Monad.Basic

/-!
# Fixpoints — frames that dissection and encoding give back

1. `encode_decodedText_iff_of_fits` says which frames are encoded again from the text of their
   headers: those whose headers all carry what the encoder derives.
2. `Frame.encode_decode_iff` says so of the text that dissection gives.
-/

namespace FrameText

open Text

/-! ## Fixpoints -/

/-- In a buffer that holds it, a frame is encoded again from its text exactly if its headers are
consistent. -/
theorem encode_decodedText_iff_of_fits {config : Config} {frame : Frame} {data rest : Bytes}
    {headers : List FoundHeader} (walk : Walk .ether data headers rest) (least : 60 ≤ data.length)
    (most : data.length ≤ 1514)
    (few : (layerTexts (decodedText headers data.length rest)).length ≤ 31)
    (described : frame.text = decodedText headers data.length rest)
    (room : data.length ≤ frame.capacity) :
    ((frame.encode config).result = .ok () ∧ (frame.encode config).state.data = data) ↔
      Consistent none headers data := by
  have small : data.length + 4 < Limits.wordBound := by
    rw [Limits.wordBound]
    omega
  have read : Layer.ofDescription frame.text = .ok (decodedLayers headers data.length rest) := by
    rw [described]
    exact ofDescription_decodedText small few
  have capacity : frame.reset.capacity = frame.capacity := List.length_replicate
  have fixpoint := build_decodedLayers_iff walk least most (show frame.reset.dataLen = 0 from rfl)
    (by rw [capacity]; exact room)
  rw [← fixpoint]
  constructor
  · rintro ⟨success, same⟩
    -- The layers that were encoded can only be those that the text shows.
    rcases Frame.encode_eq_ok.1 ⟨success, rfl⟩ with ⟨layers, spelled, built⟩
    rw [read] at spelled
    cases spelled
    exact ⟨_, built, same⟩
  · rintro ⟨final, built, same⟩
    rcases (@Frame.encode_eq_ok config frame final).2 ⟨_, read, built⟩ with ⟨success, state⟩
    exact ⟨success, by rw [state]; exact same⟩

/-- Every buffer for the longest frame is large enough. -/
theorem encode_decodedText_iff {config : Config} {frame : Frame} {data rest : Bytes}
    {headers : List FoundHeader} (walk : Walk .ether data headers rest) (least : 60 ≤ data.length)
    (most : data.length ≤ 1514)
    (few : (layerTexts (decodedText headers data.length rest)).length ≤ 31)
    (described : frame.text = decodedText headers data.length rest) (room : 1514 ≤ frame.capacity) :
    ((frame.encode config).result = .ok () ∧ (frame.encode config).state.data = data) ↔
      Consistent none headers data :=
  encode_decodedText_iff_of_fits walk least most few described (Nat.le_trans most room)

/-- A frame is encoded again from the text of its dissection exactly if all headers that dissection
walks carry what the encoder would derive for them. -/
theorem Frame.encode_decode_iff {context : DecodeContext} {config : Config} {frame : Frame}
    {data : Bytes} {text : Text} (least : 60 ≤ data.length) (most : data.length ≤ 1514)
    (decoded : (context.decode data .ether).1 = .ok text) (few : (layerTexts text).length ≤ 31)
    (described : frame.text = text) (room : 1514 ≤ frame.capacity) :
    ((frame.encode config).result = .ok () ∧ (frame.encode config).state.data = data) ↔
      Consistent none (Dissection.ofBytes .ether data).headers data := by
  obtain ⟨headers, rest, walk, rfl⟩ : ∃ headers rest, Walk .ether data headers rest ∧
      text = decodedText headers data.length rest := walk_of_decode decoded
  rw [Dissection.ofBytes_eq_ok.2 walk]
  exact encode_decodedText_iff walk least most few described room

/-- A tagged datagram whose headers all carry derived values is encoded again from its text. -/
theorem Frame.encode_decode_datagram :
    let data : Bytes :=
      [0xFF, 0xFF, 0xFF, 0xFF, 0xFF, 0xFF, 0, 0, 0, 0, 0, 0, 0x81, 0x00, 0xE0, 0x07, 0x08, 0x00,
        0x45, 0, 0, 42, 0, 1, 0, 0, 64, 17, 0xFA, 0xAA, 192, 10, 0, 1, 192, 10, 0, 2,
        0x04, 0xD2, 0x16, 0x2E, 0, 22, 0x14, 0xF0, 0x69, 0x74, 0x27, 0x73, 0x20, 0x31, 0x2F, 0x32,
        0x25, 0x25, 0x25, 0x25, 0x25, 0x25]
    ∃ text, decode data .ether = .ok text ∧
      ((Frame.new [] text 1514).encode {}).result = .ok () ∧
      ((Frame.new [] text 1514).encode {}).state.data = data := by
  intro data
  let text : Text :=
    "Ether(dst=FF:FF:FF:FF:FF:FF,src=00:00:00:00:00:00)/".toList ++
      "Dot1q(vlan=7,prio=7,cfi=0)/".toList ++
      "IPv4(ver=4,ihl=5,tos=0x00,len=42,id=1,fragoff=0x0000,ttl=64,cksum=0xfaaa,".toList ++
      "dst=192.10.0.2,src=192.10.0.1,proto=udp)/".toList ++
      "UDP(dport=5678,sport=1234,len=22,cksum=0x14f0)/".toList ++
      "Raw('it\\x27s 1\\x2f2%%%%%%')/Payload(len=64)".toList
  have decoded : (DecodeContext.decode {} data .ether).1 = .ok text := by decide +kernel
  have few : (layerTexts text).length ≤ 31 := by decide +kernel
  have consistent : Consistent none (Dissection.ofBytes .ether data).headers data := by
    decide +kernel
  have least : 60 ≤ data.length := by decide +kernel
  have most : data.length ≤ 1514 := by decide +kernel
  have room : 1514 ≤ (Frame.new [] text 1514).capacity := Nat.le_of_eq List.length_replicate.symm
  exact ⟨text, decoded, (Frame.encode_decode_iff least most decoded few rfl room).2 consistent⟩

end FrameText
