import FrameText.Proofs.DissectedText

/-!
# Text length — there is room for the text of a dissected frame

1. `length_fragment_le` bounds the text of a header by its number of bytes.
2. `length_decodedText_le` bounds the text of a frame by its length and the number of its headers.
3. `length_le_decodedText` bounds the length of data by that of its text.
-/

namespace FrameText

open Text

/-! ## Values -/

namespace Text

theorem length_uint8_le (value : UInt8) : (decimal value.toNat).length ≤ 3 := by
  have small := value.toNat_lt
  exact length_decimal_le (by decide) (by omega)

theorem length_uint16_le (value : UInt16) : (decimal value.toNat).length ≤ 5 := by
  have small := value.toNat_lt
  exact length_decimal_le (by decide) (by omega)

theorem length_uint32_le (value : UInt32) : (decimal value.toNat).length ≤ 10 := by
  have small := value.toNat_lt
  exact length_decimal_le (by decide) (by omega)

theorem length_hexMarked_uint8 (value : UInt8) : (hexMarked 2 value.toNat).length ≤ 4 :=
  Nat.add_le_add_right (length_hex_le (by decide) value.toNat_lt (Nat.le_refl 2)) 2

theorem length_hexMarked_uint16 (value : UInt16) : (hexMarked 4 value.toNat).length ≤ 6 :=
  Nat.add_le_add_right (length_hex_le (by decide) value.toNat_lt (Nat.le_refl 4)) 2

theorem length_hexMarked_uint32 (value : UInt32) : (hexMarked 8 value.toNat).length ≤ 10 :=
  Nat.add_le_add_right (length_hex_le (by decide) value.toNat_lt (Nat.le_refl 8)) 2

theorem length_hexMarked_uint64 (value : UInt64) : (hexMarked 16 value.toNat).length ≤ 18 :=
  Nat.add_le_add_right (length_hex_le (by decide) value.toNat_lt (Nat.le_refl 16)) 2

end Text

/-! ## Layers -/

/-- The number of characters of parameters, each with its equals sign and the character behind
it. -/
def fieldsWidth : List (Key × Text) → Nat
  | [] => 0
  | field :: rest => field.1.name.length + field.2.length + 2 + fieldsWidth rest

theorem fieldsWidth_cons_le {key : Key} {value : Text} {rest : List (Key × Text)}
    {bound width : Nat} (bounded : value.length ≤ bound) (others : fieldsWidth rest ≤ width) :
    fieldsWidth ((key, value) :: rest) ≤ key.name.length + bound + 2 + width := by
  show key.name.length + value.length + 2 + fieldsWidth rest ≤ _
  omega

theorem length_fragmentText (fragment : Fragment) :
    fragment.text.length ≤ fragment.kind.name.length + 2 + fieldsWidth fragment.fields := by
  have joined : ∀ fields : List (Key × Text),
      (join [','] (fields.map fun field => field.1.name ++ '=' :: field.2)).length ≤
        fieldsWidth fields := by
    intro fields
    induction fields with
    | nil => exact Nat.zero_le _
    | cons field rest ih =>
      rw [fieldsWidth]
      cases rest with
      | nil =>
        simp only [List.map_cons, List.map_nil, join, List.intercalate_singleton,
          List.length_append, List.length_cons]
        omega
      | cons next others =>
        rw [List.map_cons, join] at ih
        simp only [List.map_cons, join, List.intercalate_cons_cons, List.length_append,
          List.length_cons, List.length_nil]
        omega
  have inside := joined fragment.fields
  simp only [Fragment.text, List.length_append, List.length_cons, List.length_nil]
  omega

/-- A header is shown by at most four characters for each byte and sixty more. -/
theorem FoundHeader.length_fragment_le (header : FoundHeader) :
    header.fragment.text.length + 1 ≤ 4 * header.length + 60 := by
  have text := length_fragmentText header.fragment
  have room := header.length_toLayer_le
  -- Fields are bounded one by one; the sum of the bounds is a number.
  suffices fits : ∃ width, fieldsWidth header.fields ≤ width ∧
      header.kind.name.length + 3 + width ≤ 4 * header.toLayer.length + 60 by
    rcases fits with ⟨width, fields, fits⟩
    have kind : header.fragment.kind = header.kind := rfl
    have same : header.fragment.fields = header.fields := rfl
    rw [kind, same] at text
    omega
  have ended : fieldsWidth [] ≤ 0 := Nat.le_refl 0
  cases header with
  | ether header =>
    exact ⟨_,
      fieldsWidth_cons_le header.destination.length_print_le
        (fieldsWidth_cons_le header.source.length_print_le ended),
      Nat.le_of_ble_eq_true rfl⟩
  | vlan tag header =>
    have bit : (decimal header.dropEligible.toNat).length ≤ 1 := by
      cases header.dropEligible <;> exact Nat.le_refl 1
    refine ⟨_,
      fieldsWidth_cons_le (length_uint16_le header.vlanId)
        (fieldsWidth_cons_le (length_uint8_le header.priority) (fieldsWidth_cons_le bit ended)), ?_⟩
    cases tag <;> exact Nat.le_of_ble_eq_true rfl
  | ipv4 header =>
    have byte := header.versionIhl.toNat_lt
    have version : (decimal header.version).length ≤ 2 :=
      length_decimal_le (by decide) (by rw [IPv4Header.version]; omega)
    have words : (decimal header.words).length ≤ 2 :=
      length_decimal_le (by decide) (by rw [IPv4Header.words]; omega)
    exact ⟨_,
      fieldsWidth_cons_le version (fieldsWidth_cons_le words
        (fieldsWidth_cons_le (length_hexMarked_uint8 header.tos)
          (fieldsWidth_cons_le (length_uint16_le header.totalLength)
            (fieldsWidth_cons_le (length_uint16_le header.identification)
              (fieldsWidth_cons_le (length_hexMarked_uint16 header.fragmentOffset)
                (fieldsWidth_cons_le (length_uint8_le header.ttl)
                  (fieldsWidth_cons_le (length_hexMarked_uint16 header.checksum)
                    (fieldsWidth_cons_le header.destination.length_print_le
                      (fieldsWidth_cons_le header.source.length_print_le
                        (fieldsWidth_cons_le header.protocol.length_print_le ended)))))))))),
      Nat.le_of_ble_eq_true rfl⟩
  | ipv6 header =>
    exact ⟨_,
      fieldsWidth_cons_le (length_hexMarked_uint32 header.vtcFlow)
        (fieldsWidth_cons_le (length_uint16_le header.payloadLength)
          (fieldsWidth_cons_le (length_uint8_le header.hopLimit)
            (fieldsWidth_cons_le header.destination.length_print_le
              (fieldsWidth_cons_le header.source.length_print_le
                (fieldsWidth_cons_le header.nextHeader.length_print_le ended))))),
      Nat.le_of_ble_eq_true rfl⟩
  | udp header =>
    exact ⟨_,
      fieldsWidth_cons_le (length_uint16_le header.destinationPort)
        (fieldsWidth_cons_le (length_uint16_le header.sourcePort)
          (fieldsWidth_cons_le (length_uint16_le header.length)
            (fieldsWidth_cons_le (length_hexMarked_uint16 header.checksum) ended))),
      Nat.le_of_ble_eq_true rfl⟩
  | tcp header =>
    exact ⟨_,
      fieldsWidth_cons_le (length_uint16_le header.sourcePort)
        (fieldsWidth_cons_le (length_uint16_le header.destinationPort)
          (fieldsWidth_cons_le (length_uint32_le header.sequence)
            (fieldsWidth_cons_le (length_uint32_le header.acknowledgment)
              (fieldsWidth_cons_le (length_uint8_le header.dataOffset)
                (fieldsWidth_cons_le (length_hexMarked_uint8 header.flags.bits)
                  (fieldsWidth_cons_le (length_uint16_le header.window)
                    (fieldsWidth_cons_le (length_hexMarked_uint16 header.checksum)
                      (fieldsWidth_cons_le (length_uint16_le header.urgentPointer) ended)))))))),
      Nat.le_of_ble_eq_true rfl⟩
  | vxlan header =>
    exact ⟨_,
      fieldsWidth_cons_le (length_hexMarked_uint8 header.flags)
        (fieldsWidth_cons_le (length_uint32_le header.vni) ended),
      Nat.le_of_ble_eq_true rfl⟩
  | tsc header =>
    exact ⟨_, fieldsWidth_cons_le (length_hexMarked_uint64 header.value) ended,
      Nat.le_of_ble_eq_true rfl⟩

/-- Every byte of a `Raw` layer takes between one and four characters. -/
theorem RawText.length_escape (bytes : Bytes) :
    bytes.length ≤ (escape bytes).length ∧ (escape bytes).length ≤ 4 * bytes.length := by
  have byte : ∀ b, 1 ≤ (escapeByte b).length ∧ (escapeByte b).length ≤ 4 := by
    intro b
    unfold escapeByte
    split
    · exact ⟨Nat.le_refl 1, Nat.le_of_ble_eq_true rfl⟩
    · exact ⟨Nat.succ_le_succ (Nat.zero_le _), length_hexMarked_uint8 b⟩
  induction bytes with
  | nil => exact ⟨Nat.le_refl 0, Nat.le_refl 0⟩
  | cons b bytes ih =>
    have first := byte b
    rw [escape] at ih ⊢
    rw [List.flatMap_cons, List.length_append, List.length_cons]
    omega

theorem length_rawLayer (bytes : Bytes) :
    (rawLayer bytes).length = (RawText.escape bytes).length + 7 := by
  have name : (LayerKind.raw.name ++ "('".toList).length = 5 := rfl
  rw [rawLayer, List.length_append, List.length_append, name, Nat.add_comm 5, Nat.add_assoc]
  rfl

theorem length_payloadLayer_le {length : Nat} (most : length ≤ 1514) :
    (payloadLayer length).text.length ≤ 18 := by
  have text := length_fragmentText (payloadLayer length)
  have digits : (decimal (length + 4)).length ≤ 4 := length_decimal_le (by decide) (by omega)
  have fields : fieldsWidth (payloadLayer length).fields ≤ 3 + 4 + 2 + 0 :=
    @fieldsWidth_cons_le .len _ [] _ _ digits (Nat.le_refl 0)
  have name : (payloadLayer length).kind.name.length = 7 := rfl
  omega

/-! ## Whole frames -/

variable {reader : Reader} {data rest : Bytes} {headers : List FoundHeader}

/-- The headers of a walk and the bytes behind them are the data. -/
theorem length_decodedText_le (walk : Walk reader data headers rest) {length : Nat}
    (most : length ≤ 1514) :
    (decodedText headers length rest).length ≤ 4 * data.length + 60 * headers.length + 26 := by
  induction walk with
  | @stop _ data _ =>
    have payload := length_payloadLayer_le most
    have raw := length_rawLayer data
    have escaped := RawText.length_escape data
    unfold decodedText decodedParts
    split
    · simp only [List.map_nil, List.nil_append, List.map_cons, join, List.intercalate_singleton]
      omega
    · simp only [List.map_nil, List.nil_append, List.map_cons, join, List.intercalate_cons_cons,
        List.intercalate_singleton, List.length_append, List.length_cons, List.length_nil]
      omega
  | @step _ data header headers rest _ fits _ ih =>
    have text := header.length_fragment_le
    rw [List.length_drop] at ih
    rw [decodedText_cons, List.length_append, List.length_cons, List.length_cons]
    omega

/-! ## Data and its text -/

/-- A header has at most as many bytes as its length field can say. -/
theorem FoundHeader.length_le (header : FoundHeader) : header.length ≤ 1020 := by
  cases header with
  | ipv4 header =>
    have words : header.words < 16 := Nat.mod_lt _ (by decide)
    show 20 + (header.words * 4 - 20) ≤ 1020
    omega
  | tcp header =>
    have offset := header.dataOffset.toNat_lt
    show 20 + (header.dataOffset.toNat * 4 - 20) ≤ 1020
    omega
  | _ => exact Nat.le_of_ble_eq_true rfl

/-- Data is not much longer than the text that shows it. -/
theorem length_le_decodedText (walk : Walk reader data headers rest) (length : Nat) :
    data.length ≤ 1020 * (decodedText headers length rest).length := by
  induction walk with
  | @stop _ data _ =>
    have raw := length_rawLayer data
    have escaped := RawText.length_escape data
    unfold decodedText decodedParts
    split
    · rename_i empty
      rw [empty]
      exact Nat.zero_le _
    · simp only [List.map_nil, List.nil_append, List.map_cons, join, List.intercalate_cons_cons,
        List.intercalate_singleton, List.length_append]
      omega
  | @step _ data header headers rest _ fits _ ih =>
    have most := header.length_le
    rw [List.length_drop] at ih
    rw [decodedText_cons, List.length_append, List.length_cons]
    omega

/-- Data that has a text is far shorter than what can be counted. -/
theorem small_of_decode {context : DecodeContext} {start : LayerKind} {text : Text}
    (decoded : (context.decode data start).1 = .ok text) : data.length + 4 < Limits.wordBound := by
  obtain ⟨-, headers, rest, walk, rfl, short⟩ := decode_eq_ok.1 decoded
  have length := length_le_decodedText walk data.length
  rw [Limits.wordBound]
  omega

end FrameText
