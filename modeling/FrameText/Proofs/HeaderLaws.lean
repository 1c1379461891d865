import FrameText.Proofs.HeaderCodec
import FrameText.Proofs.Results

/-!
# Header laws — what survives being written and read

Headers are written into windows and read from them.  A header type is lawful if

1. writing what was read gives the bytes back, up to those that the header does not keep;
2. reading what was written gives the header back, with its fields cut to their widths and
   registered numbers under their names;
3. windows that are too short are refused, and nothing else is.

`Header.lawful_of_codec` derives all of it from how the fields stand in the bytes, and
`Header.lawful_all` says for each of the eight types what is kept and what is cut.
-/

namespace FrameText

open Bytes

/-! ## Definitions -/

namespace Header

variable {α : Type} [Header α]

/-- Writes a header over the start of a window, which stays as it is if the header does not fit. -/
def write (header : α) (window : Bytes) : Outcome Bytes Unit :=
  match writeTo header window with
  | .ok written => ⟨.ok (), written, []⟩
  | .error e => ⟨.error e, window, []⟩

/-- The laws of a header type whose headers are `length` bytes long.  Of these bytes a header gives
back `kept`, and of a header its bytes give back `cut`. -/
structure Lawful (α : Type) [Header α] (length : Nat) (kept : Bytes → Bytes) (cut : α → α) :
    Prop where
  write_read : ∀ source window : Bytes, length ≤ source.length → length ≤ window.length →
    ∃ header, readFrom α source = .ok header ∧
      write header window = ⟨.ok (), kept (source.take length) ++ window.drop length, []⟩
  read_write : ∀ (header : α) (window : Bytes), length ≤ window.length →
    ∃ written, write header window = ⟨.ok (), written, []⟩ ∧
      readFrom α written = .ok (cut header)
  read_short : ∀ (source : Bytes) (e : Error), readFrom α source = .error e ↔
    source.length < length ∧ e = .truncated (kind α) length source.length
  write_short : ∀ (header : α) (window : Bytes) (e : Error),
    (write header window).result = .error e ↔
      window.length < length ∧ e = .bufferOverflow length window.length
  write_refused : ∀ (header : α) (window : Bytes) (e : Error),
    (write header window).result = .error e → (write header window).state = window

end Header

/-- The types that have names. -/
def EtherType.registered : List EtherType :=
  [.ipv4, .dot1q, .dot1ad, .ipv6]

/-- The type under its name, if its number is registered. -/
def EtherType.named (type : EtherType) : EtherType :=
  (registered.find? (·.toUInt16 == type.toUInt16)).getD type

/-- The protocols that have names. -/
def IpProtocol.registered : List IpProtocol :=
  [.tcp, .udp]

/-- The protocol under its name, if its number is registered. -/
def IpProtocol.named (protocol : IpProtocol) : IpProtocol :=
  (registered.find? (·.toUInt8 == protocol.toUInt8)).getD protocol

/-- The tag with its fields masked to 12, 3 and 1 bits. -/
def VlanHeader.masked (header : VlanHeader) : VlanHeader :=
  { header with
    vlanId := header.vlanId &&& 0xFFF
    priority := header.priority &&& 0x7
    etherType := header.etherType.named }

/-- The bytes without the reserved half behind the header length. -/
def TcpHeader.kept (bytes : Bytes) : Bytes :=
  bytes.modify 12 (· &&& 0xF0)

/-- The bytes without those that are reserved. -/
def VxlanHeader.kept (bytes : Bytes) : Bytes :=
  ((bytes.set 1 0).set 2 0).set 7 0

/-- The bytes behind the mark, which is the same in all markers. -/
def Timestamp.kept (bytes : Bytes) : Bytes :=
  Timestamp.mark ++ bytes.drop 4

/-! ## Registered numbers -/

theorem EtherType.ofUInt16_toUInt16 (type : EtherType) : ofUInt16 type.toUInt16 = type.named := by
  cases type with
  | custom value =>
    rw [named, registered, toUInt16, ofUInt16]
    -- The numbers are tried one after the other, as the names are.
    by_cases ipv4 : value = 0x0800
    · subst ipv4
      rfl
    by_cases dot1q : value = 0x8100
    · subst dot1q
      rfl
    by_cases dot1ad : value = 0x88A8
    · subst dot1ad
      rfl
    by_cases ipv6 : value = 0x86DD
    · subst ipv6
      rfl
    simp [toUInt16, ipv4, dot1q, dot1ad, ipv6, Ne.symm ipv4, Ne.symm dot1q, Ne.symm dot1ad,
      Ne.symm ipv6]
  | _ => rfl

theorem IpProtocol.ofUInt8_toUInt8 (protocol : IpProtocol) :
    ofUInt8 protocol.toUInt8 = protocol.named := by
  cases protocol with
  | custom value =>
    rw [named, registered, toUInt8, ofUInt8]
    by_cases tcp : value = 6
    · subst tcp
      rfl
    by_cases udp : value = 17
    · subst udp
      rfl
    simp [toUInt8, tcp, udp, Ne.symm tcp, Ne.symm udp]
  | _ => rfl

/-! ## Laws from the codec -/

namespace Header

variable {α : Type} [Header α]

theorem writeTo_eq_error {header : α} {window : Bytes} {e : Error} :
    writeTo header window = .error e ↔
      window.length < size α ∧ e = .bufferOverflow (size α) window.length := by
  unfold writeTo
  split
  · rename_i short
    simp [short, eq_comm]
  · rename_i fits
    simp [fits]

theorem readFrom_eq_error {source : Bytes} {e : Error} :
    readFrom α source = .error e ↔
      source.length < size α ∧ e = .truncated (kind α) (size α) source.length := by
  unfold readFrom
  split
  · rename_i short
    simp [short, eq_comm]
  · rename_i fits
    simp [fits]

/-- A header that fits replaces the bytes at the start of the window. -/
theorem write_eq {header : α} {window : Bytes} (fits : size α ≤ window.length) :
    write header window = ⟨.ok (), put header ++ window.drop (size α), []⟩ := by
  have written : writeTo header window = .ok (put header ++ window.drop (size α)) := by
    rw [writeTo, if_neg (Nat.not_lt_of_le fits), overwrite, length_put, Nat.zero_add,
      List.take_zero, List.nil_append]
  rw [write, written]

theorem result_write_eq_error {header : α} {window : Bytes} {e : Error} :
    (write header window).result = .error e ↔ writeTo header window = .error e := by
  unfold write
  cases writeTo header window with
  | ok written => simp
  | error fault => simp

/-- A header type is lawful as soon as its codec is. -/
theorem lawful_of_codec {kept : Bytes → Bytes} {cut : α → α}
    (put_get : ∀ bytes : Bytes, size α ≤ bytes.length →
      put (get bytes : α) = kept (bytes.take (size α)))
    (get_put : ∀ (header : α) (rest : Bytes), get (put header ++ rest) = cut header) :
    Lawful α (size α) kept cut where
  write_read source window long fits := by
    refine ⟨get source, if_neg (Nat.not_lt_of_le long), ?_⟩
    rw [write_eq fits, put_get source long]
  read_write header window fits := by
    refine ⟨_, write_eq fits, ?_⟩
    have long : ¬ (put header ++ window.drop (size α)).length < size α := by
      rw [List.length_append, length_put]
      exact Nat.not_lt_of_le (Nat.le_add_right _ _)
    rw [readFrom, if_neg long, get_put]
  read_short _ _ := readFrom_eq_error
  write_short _ _ _ := result_write_eq_error.trans writeTo_eq_error
  write_refused header window e refused := by
    rw [write, result_write_eq_error.1 refused]

end Header

/-! ## The eight header types -/

theorem VlanHeader.cut_eq_masked (header : VlanHeader) : header.cut = header.masked := by
  have identifier : UInt16.ofNat (header.vlanId.toNat % 4096) = header.vlanId &&& 0xFFF := by
    apply UInt16.toNat_inj.1
    rw [UInt16.toNat_ofNat', UInt16.toNat_and, show (0xFFF : UInt16).toNat = 2 ^ 12 - 1 from rfl,
      Nat.and_two_pow_sub_one_eq_mod]
    exact Nat.mod_eq_of_lt (by omega)
  have priority : UInt8.ofNat (header.priority.toNat % 8) = header.priority &&& 0x7 := by
    apply UInt8.toNat_inj.1
    rw [UInt8.toNat_ofNat', UInt8.toNat_and, show (0x7 : UInt8).toNat = 2 ^ 3 - 1 from rfl,
      Nat.and_two_pow_sub_one_eq_mod]
    exact Nat.mod_eq_of_lt (by omega)
  rw [VlanHeader.cut, VlanHeader.ofFields, VlanHeader.masked, identifier, priority,
    EtherType.ofUInt16_toUInt16]

/-- Clearing the lower half of a byte. -/
theorem TcpHeader.upper_half (b : UInt8) : UInt8.ofNat (b.toNat / 16 * 16) = b &&& 0xF0 := by
  -- The mask is not a power of two less one, so that the bytes are looked at one by one.
  have halves : ∀ n < 256, n / 16 * 16 = n &&& 0xF0 := by
    decide +kernel
  have small := b.toNat_lt
  apply UInt8.toNat_inj.1
  calc
    (UInt8.ofNat (b.toNat / 16 * 16)).toNat = b.toNat / 16 * 16 := by
      rw [UInt8.toNat_ofNat']
      omega
    _ = (b &&& 0xF0).toNat := halves b.toNat small

theorem TcpHeader.cut_dataOffset (words : UInt8) :
    UInt8.ofNat (words.toNat % 16) = words &&& 0xF := by
  apply UInt8.toNat_inj.1
  rw [UInt8.toNat_ofNat', UInt8.toNat_and, show (0xF : UInt8).toNat = 2 ^ 4 - 1 from rfl,
    Nat.and_two_pow_sub_one_eq_mod]
  exact Nat.mod_eq_of_lt (by omega)

theorem VxlanHeader.cut_vni (vni : UInt32) :
    UInt32.ofNat (vni.toNat % 0x1000000) = vni &&& 0xFFFFFF := by
  apply UInt32.toNat_inj.1
  rw [UInt32.toNat_ofNat', UInt32.toNat_and, show (0xFFFFFF : UInt32).toNat = 2 ^ 24 - 1 from rfl,
    Nat.and_two_pow_sub_one_eq_mod]
  exact Nat.mod_eq_of_lt (by omega)

theorem TcpHeader.put_get_kept {bytes : Bytes} (fits : 20 ≤ bytes.length) :
    Header.put (Header.get bytes : TcpHeader) = TcpHeader.kept (bytes.take 20) := by
  have inside : 12 < (bytes.take 20).length := by
    rw [List.length_take]
    omega
  -- The byte that is read at 12 is the one that the list has there.
  have byte : slice bytes 12 1 = [(bytes.take 20)[12]] := by
    rw [← slice_take (show 12 + 1 ≤ 20 by omega), slice, List.drop_eq_getElem_cons inside]
    rfl
  have read : uint8At bytes 12 = (bytes.take 20)[12] := by
    have same : [uint8At bytes 12] = [(bytes.take 20)[12]] :=
      (singleton_uint8At (by omega)).trans byte
    exact (List.cons.inj same).1
  rw [TcpHeader.put_get fits, TcpHeader.upper_half, read, TcpHeader.kept,
    List.modify_eq_take_cons_drop inside, overwrite, List.append_assoc]
  rfl

theorem VxlanHeader.put_get_kept {bytes : Bytes} (fits : 8 ≤ bytes.length) :
    Header.put (Header.get bytes : VxlanHeader) = VxlanHeader.kept (bytes.take 8) := by
  have length : (bytes.take 8).length = 8 := by
    rw [List.length_take, Nat.min_eq_left fits]
  have flags : slice (bytes.take 8) 0 1 = [uint8At bytes 0] := by
    rw [slice_take (by omega), singleton_uint8At (by omega)]
  have protocol : slice (bytes.take 8) 3 1 = [uint8At bytes 3] := by
    rw [slice_take (by omega), singleton_uint8At (by omega)]
  rw [VxlanHeader.put_get fits, ← slice_take (show 4 + 3 ≤ 8 by omega)]
  -- Of the eight bytes, the flags, the protocol and the identifier come back where they were.
  match bytes.take 8, length, flags, protocol with
  | [_, _, _, _, _, _, _, _], _, flags, protocol =>
    rw [← (List.cons.inj flags).1, ← (List.cons.inj protocol).1]
    rfl

theorem Timestamp.put_get_kept {bytes : Bytes} (fits : 12 ≤ bytes.length) :
    Header.put (Header.get bytes : Timestamp) = Timestamp.kept (bytes.take 12) := by
  rw [Timestamp.put_get fits, Timestamp.kept, List.drop_take, slice]

/-- All eight header types are lawful.  Five of them keep all of their bytes; TCP clears the
reserved half of byte 12, VXLAN its bytes 1, 2 and 7, and a timestamp marker starts with the mark
whatever it was read from. -/
theorem Header.lawful_all :
    Lawful EthernetHeader 14 id
      (fun header => { header with etherType := header.etherType.named }) ∧
    Lawful VlanHeader 4 id VlanHeader.masked ∧
    Lawful IPv4Header 20 id
      (fun header => { header with protocol := header.protocol.named }) ∧
    Lawful IPv6Header 40 id
      (fun header => { header with nextHeader := header.nextHeader.named }) ∧
    Lawful UdpHeader 8 id id ∧
    Lawful TcpHeader 20 TcpHeader.kept
      (fun header => { header with dataOffset := header.dataOffset &&& 0xF }) ∧
    Lawful VxlanHeader 8 VxlanHeader.kept
      (fun header => { header with vni := header.vni &&& 0xFFFFFF }) ∧
    Lawful Timestamp 12 Timestamp.kept id := by
  refine ⟨?_, ?_, ?_, ?_, ?_, ?_, ?_, ?_⟩
  · apply lawful_of_codec
    · intro bytes fits
      exact EthernetHeader.put_get fits
    · intro header rest
      rw [EthernetHeader.get_put, EtherType.ofUInt16_toUInt16]
  · apply lawful_of_codec
    · intro bytes fits
      exact VlanHeader.put_get fits
    · intro header rest
      rw [VlanHeader.get_put, VlanHeader.cut_eq_masked]
  · apply lawful_of_codec
    · intro bytes fits
      exact IPv4Header.put_get fits
    · intro header rest
      rw [IPv4Header.get_put, IpProtocol.ofUInt8_toUInt8]
  · apply lawful_of_codec
    · intro bytes fits
      exact IPv6Header.put_get fits
    · intro header rest
      rw [IPv6Header.get_put, IpProtocol.ofUInt8_toUInt8]
  · apply lawful_of_codec
    · intro bytes fits
      exact UdpHeader.put_get fits
    · intro header rest
      exact UdpHeader.get_put header rest
  · apply lawful_of_codec
    · intro bytes fits
      exact TcpHeader.put_get_kept fits
    · intro header rest
      rw [TcpHeader.get_put, TcpHeader.cut_dataOffset]
  · apply lawful_of_codec
    · intro bytes fits
      exact VxlanHeader.put_get_kept fits
    · intro header rest
      rw [VxlanHeader.get_put, VxlanHeader.cut_vni]
  · apply lawful_of_codec
    · intro bytes fits
      exact Timestamp.put_get_kept fits
    · intro header rest
      exact Timestamp.get_put header rest

end FrameText
