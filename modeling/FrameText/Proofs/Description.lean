import FrameText.Dissection.Fragment
import FrameText.Proofs.Addresses
import FrameText.Proofs.Building
import FrameText.Proofs.Escapes
import FrameText.Proofs.Regeneration

/-!
# Descriptions — the text of a dissected frame is read back

1. `RawText.unescape_escape` reads literal bytes back.
2. `Describes` says that a text is one layer of a description wherever it stands, and which one;
   `describes_fragment` says so of the text of a header.
3. `ofDescription_join` reads a description layer by layer.
-/

namespace FrameText

open Text

/-! ## Literal bytes -/

namespace RawText

/-- The texts of the bytes that stand for themselves, one after the other. -/
theorem plain_printed : ∀ n < 256, isPlain (UInt8.ofNat n) = true →
    Char.ofNat n ≠ '\\' ∧ Char.ofNat n ≠ '/' ∧
      String.utf8EncodeChar (Char.ofNat n) = [UInt8.ofNat n] := by
  decide +kernel

/-- The digits of the bytes, one after the other. -/
theorem hex_printed : ∀ n < 256, ∃ high low, hex 2 n = [high, low] ∧ high ≠ '/' ∧ low ≠ '/' ∧
    high.utf8Size = 1 ∧ low.utf8Size = 1 := by
  have digit : ∀ d < 16, Nat.digitChar d ≠ '/' ∧ (Nat.digitChar d).utf8Size = 1 := by decide
  intro n small
  obtain ⟨highOther, highSize⟩ := digit (n / 16) (by omega)
  obtain ⟨lowOther, lowSize⟩ := digit (n % 16) (by omega)
  exact ⟨_, _, hex_byte n small, highOther, lowOther, highSize, lowSize⟩

/-- A byte is written as an item that stands for it. -/
theorem exists_item_of_byte (b : UInt8) :
    ∃ item : Item, escapeByte b = item.text ∧ item.bytes = [b] := by
  unfold escapeByte
  by_cases plain : isPlain b = true
  · have printed := plain_printed b.toNat b.toNat_lt
    rw [UInt8.ofNat_toNat] at printed
    obtain ⟨other, -, bytes⟩ := printed plain
    exact ⟨.plain (Char.ofNat b.toNat) other, if_pos plain, bytes⟩
  · have small := b.toNat_lt
    have high : IsDigit 16 (Nat.digitChar (b.toNat / 16)) (b.toNat / 16) := ⟨by omega, .inl rfl⟩
    have low : IsDigit 16 (Nat.digitChar (b.toNat % 16)) (b.toNat % 16) := ⟨by omega, .inl rfl⟩
    have value : b.toNat = b.toNat / 16 * 16 + b.toNat % 16 := (Nat.div_add_mod' _ 16).symm
    refine ⟨.escaped (.pair 'x' _ _ b.toNat (.inl rfl) (.inl ⟨_, _, high, low, value⟩)), ?_, ?_⟩
    · rw [if_neg plain, hex_byte b.toNat small]
      rfl
    · exact congrArg (fun b => [b]) UInt8.ofNat_toNat

theorem unescape_escapeByte (b : UInt8) (behind : Text) :
    unescape (escapeByte b ++ behind) = (unescape behind).map (b :: ·) := by
  obtain ⟨item, written, bytes⟩ := exists_item_of_byte b
  rw [written, unescape_append, bytes]
  rfl

theorem unescape_escape (bytes : Bytes) : unescape (escape bytes) = .ok bytes := by
  induction bytes with
  | nil => rw [escape, List.flatMap_nil, unescape]
  | cons b bytes ih =>
    rw [escape, List.flatMap_cons, unescape_escapeByte]
    rw [escape] at ih
    rw [ih]
    rfl

theorem slash_not_mem_escape (bytes : Bytes) : '/' ∉ escape bytes := by
  intro member
  rcases List.mem_flatMap.1 member with ⟨b, -, here⟩
  unfold escapeByte at here
  split at here
  · rename_i plain
    have printed := plain_printed b.toNat b.toNat_lt
    rw [UInt8.ofNat_toNat] at printed
    exact (printed plain).2.1 (List.mem_singleton.1 here).symm
  · rcases hex_printed b.toNat b.toNat_lt with ⟨high, low, digits, highOther, lowOther, -⟩
    rw [digits] at here
    simp only [List.mem_cons, List.not_mem_nil, or_false] at here
    rcases here with impossible | impossible | same | same
    · exact absurd impossible (by decide)
    · exact absurd impossible (by decide)
    · exact highOther same.symm
    · exact lowOther same.symm

theorem parse_escape (bytes : Bytes) :
    parse ('(' :: ('\'' :: escape bytes ++ ['\'']) ++ [')']) = .ok bytes := by
  have quoted : unquote ('\'' :: escape bytes ++ ['\'']) = escape bytes := by
    have opened : stripStart? ['\''] ('\'' :: escape bytes ++ ['\'']) =
        some (escape bytes ++ ['\'']) := stripStart?_eq_some_iff.2 rfl
    have closed : stripEnd? ['\''] (escape bytes ++ ['\'']) = some (escape bytes) :=
      stripEnd?_eq_some_iff.2 rfl
    rw [unquote, opened, Option.bind_some, closed, Option.getD_some]
  unfold parse
  rw [stripParens_between, trim_between (by decide) (by decide)]
  simp only [quoted, unescape_escape]
  rfl

end RawText

/-! ## One layer -/

/-- Whether a text is one layer of a description wherever it stands, and is read as this layer. -/
structure Describes (text : Text) (layer : Layer) : Prop where
  slash : '/' ∉ text
  trimmed : trim text = text
  nonempty : text ≠ []
  read : ∃ token, LayerToken.ofText? text = some token ∧ Layer.ofToken token = .ok layer

theorem LayerToken.ofText?_name (kind : LayerKind) (inside : Text) :
    LayerToken.ofText? (kind.name ++ '(' :: inside) = some ⟨kind, '(' :: inside⟩ := by
  cases kind <;> rfl

theorem describes_of_token {kind : LayerKind} {inside : Text} {layer : Layer}
    (slash : '/' ∉ inside)
    (read : Layer.ofToken ⟨kind, '(' :: inside ++ [')']⟩ = .ok layer) :
    Describes (kind.name ++ '(' :: inside ++ [')']) layer := by
  -- A name has no slash in it and no blank in front.
  have name : '/' ∉ kind.name ∧ kind.name ≠ [] ∧
      ∀ c, kind.name.head? = some c → isBlank c = false := by
    cases kind <;> exact ⟨by decide, by decide, by intro c first; cases first; decide⟩
  refine ⟨?_, ?_, ?_, ⟨kind, _⟩, ?_, read⟩
  · intro member
    simp only [List.mem_append, List.mem_cons, List.not_mem_nil, or_false] at member
    rcases member with (inName | opening | inInside) | closing
    · exact name.1 inName
    · exact absurd opening (by decide)
    · exact slash inInside
    · exact absurd closing (by decide)
  · apply trim_eq_self
    · intro c first
      cases shape : kind.name with
      | nil => exact absurd shape name.2.1
      | cons d others =>
        rw [shape] at first
        exact name.2.2 c (by rw [shape]; exact first)
    · intro c last
      rw [List.getLast?_concat] at last
      cases last
      decide
  · rw [List.append_assoc]
    exact fun empty => name.2.1 (List.append_eq_nil_iff.1 empty).1
  · rw [List.append_assoc]
    exact LayerToken.ofText?_name kind _

theorem rawLayer_eq (bytes : Bytes) :
    rawLayer bytes =
      LayerKind.raw.name ++ '(' :: ('\'' :: RawText.escape bytes ++ ['\'']) ++ [')'] := by
  simp [rawLayer]

theorem describes_rawLayer (bytes : Bytes) : Describes (rawLayer bytes) (.raw bytes) := by
  have slash : '/' ∉ '\'' :: RawText.escape bytes ++ ['\''] := by
    intro member
    simp only [List.mem_append, List.mem_cons, List.not_mem_nil, or_false] at member
    rcases member with (opening | inside) | closing
    · exact absurd opening (by decide)
    · exact RawText.slash_not_mem_escape bytes inside
    · exact absurd closing (by decide)
  have read : Layer.ofToken ⟨.raw, '(' :: ('\'' :: RawText.escape bytes ++ ['\'']) ++ [')']⟩ =
      .ok (.raw bytes) :=
    map_eq_ok.2 ⟨bytes, RawText.parse_escape bytes, rfl⟩
  rw [rawLayer_eq]
  exact describes_of_token slash read

/-! ## Parameters of a layer -/

section Parameters

variable {fields : List (Key × Text)}

/-- The parameters of a layer are read from the fields that they were written from. -/
theorem assignAll_join {σ : Type} (assign : σ → Text → Text → Except Error σ) (defaults : σ)
    (given : fields ≠ []) (few : fields.length ≤ 16) (words : ∀ field ∈ fields, IsWord field.2) :
    Layer.assignAll assign defaults
        ('(' :: join [','] (fields.map fun field => field.1.name ++ '=' :: field.2) ++ [')']) =
      fields.foldlM (fun layer field => assign layer field.1.name field.2) defaults := by
  -- Keys are words by their names, values by assumption.
  have pairs := @assignments_join (fields.map fun field => (field.1.name, field.2))
    (fun empty => given (List.map_eq_nil_iff.1 empty)) (by rw [List.length_map]; exact few) (by
      intro pair member
      rcases List.mem_map.1 member with ⟨field, inside, rfl⟩
      exact ⟨isWord_keyName field.1, words field inside⟩)
  rw [List.map_map] at pairs
  rw [Layer.assignAll, show (fun field : Key × Text => field.1.name ++ '=' :: field.2) =
    (fun pair : Text × Text => pair.1 ++ '=' :: pair.2) ∘
      (fun field : Key × Text => (field.1.name, field.2)) from rfl, pairs]
  exact List.foldlM_map

theorem slash_not_mem_join (words : ∀ field ∈ fields, IsWord field.2) :
    '/' ∉ join [','] (fields.map fun field => field.1.name ++ '=' :: field.2) := by
  intro member
  rcases mem_join member with comma | ⟨part, inside, here⟩
  · exact absurd comma (by decide)
  · rcases List.mem_map.1 inside with ⟨field, found, rfl⟩
    rcases List.mem_append.1 here with key | value
    · exact (isWordChar_iff.1 ((isWord_keyName field.1).2 _ key)).1 rfl
    · rcases List.mem_cons.1 value with impossible | value
      · exact absurd impossible (by decide)
      · exact (isWordChar_iff.1 ((words field found).2 _ value)).1 rfl

end Parameters

namespace FoundHeader

theorem isWord_fields (header : FoundHeader) : ∀ field ∈ header.fields, IsWord field.2 := by
  cases header
  all_goals
    simp [fields, isWord_decimal, isWord_hexMarked, MacAddress.isWord_print,
      IPv4Address.isWord_print, IPv6Address.isWord_print, IpProtocol.isWord_print]

theorem fields_given (header : FoundHeader) : header.fields ≠ [] ∧ header.fields.length ≤ 16 := by
  cases header <;> exact ⟨List.cons_ne_nil _ _, Nat.le_of_ble_eq_true rfl⟩

/-- The fields of a header are read as the layer that describes it. -/
theorem ofToken_fields (header : FoundHeader) :
    Layer.ofToken ⟨header.kind, '(' :: join [',']
      (header.fields.map fun field => field.1.name ++ '=' :: field.2) ++ [')']⟩ =
      .ok header.toLayer := by
  have read : ∀ {σ : Type} (assign : σ → Text → Text → Except Error σ) (defaults : σ),
      Layer.assignAll assign defaults
        ('(' :: join [',']
          (header.fields.map fun field => field.1.name ++ '=' :: field.2) ++ [')']) =
        header.fields.foldlM (fun layer field => assign layer field.1.name field.2) defaults :=
    fun assign defaults => assignAll_join assign defaults header.fields_given.1
      header.fields_given.2 header.isWord_fields
  cases header with
  | ether header =>
    simp only [FoundHeader.kind, Layer.ofToken, read]
    simp only [fields, List.foldlM_cons, List.foldlM_nil, Layer.assignEther, Key.ofText?_name,
      MacAddress.parse_print]
    rfl
  | vlan tag header =>
    have bit : ∀ key, uint8 key (decimal header.dropEligible.toNat) =
        .ok (UInt8.ofNat header.dropEligible.toNat) := by
      intro key
      cases header.dropEligible
      · exact uint8_decimal key 0
      · exact uint8_decimal key 1
    -- The fields that are set first are cut to their widths again with each that follows.
    have cut : VlanHeader.ofFields
        (UInt16.ofNat ((UInt16.ofNat (header.vlanId.toNat % 4096)).toNat % 4096))
        (UInt8.ofNat (header.priority.toNat % 8))
        ((UInt8.ofNat header.dropEligible.toNat).toNat % 2 == 1) =
        .ofFields header.vlanId header.priority header.dropEligible := by
      cases header.dropEligible <;> simp [VlanHeader.ofFields]
    cases tag
    all_goals
      simp only [FoundHeader.kind, VlanTag.kind, Layer.ofToken, read]
      simp only [fields, List.foldlM_cons, List.foldlM_nil, Layer.assignVlan, Key.ofText?_name,
        uint8_decimal, uint16_decimal, bit]
      exact congrArg (fun header => Except.ok (Layer.vlan _ header)) cut
  | ipv4 header =>
    simp only [FoundHeader.kind, Layer.ofToken, read]
    simp only [fields, List.foldlM_cons, List.foldlM_nil, Layer.assignIPv4, Key.ofText?_name,
      uint8_decimal, uint8_hexMarked, uint16_decimal, address, IPv4Address.ofText?_print,
      IPv4Address.isWord_print, IsWord.trim, IpProtocol.parse_print]
    rfl
  | ipv6 header =>
    simp only [FoundHeader.kind, Layer.ofToken, read]
    simp only [fields, List.foldlM_cons, List.foldlM_nil, Layer.assignIPv6, Key.ofText?_name,
      uint8_decimal, address, IPv6Address.ofText?_print, IPv6Address.isWord_print, IsWord.trim,
      IpProtocol.parse_print]
    rfl
  | udp header =>
    simp only [FoundHeader.kind, Layer.ofToken, read]
    simp only [fields, List.foldlM_cons, List.foldlM_nil, Layer.assignUdp, Key.ofText?_name,
      uint16_decimal]
    rfl
  | tcp header =>
    simp only [FoundHeader.kind, Layer.ofToken, read]
    simp only [fields, List.foldlM_cons, List.foldlM_nil, Layer.assignTcp, Key.ofText?_name,
      uint8_hexMarked, uint16_decimal, uint32_decimal]
    rfl
  | vxlan header =>
    simp only [FoundHeader.kind, Layer.ofToken, read]
    simp only [fields, List.foldlM_cons, List.foldlM_nil, Layer.assignVxlan, Key.ofText?_name,
      uint32_decimal]
    rfl
  | tsc header =>
    simp only [FoundHeader.kind, Layer.ofToken, read]
    simp only [fields, List.foldlM_cons, List.foldlM_nil, Layer.assignTsc, Key.ofText?_name,
      uint64_hexMarked]
    rfl

end FoundHeader

theorem describes_fragmentText {fragment : Fragment} {layer : Layer}
    (words : ∀ field ∈ fragment.fields, IsWord field.2)
    (read : Layer.ofToken ⟨fragment.kind, '(' :: join [',']
      (fragment.fields.map fun field => field.1.name ++ '=' :: field.2) ++ [')']⟩ = .ok layer) :
    Describes fragment.text layer :=
  describes_of_token (slash_not_mem_join words) read

theorem describes_fragment (header : FoundHeader) :
    Describes header.fragment.text header.toLayer :=
  describes_fragmentText header.isWord_fields header.ofToken_fields

theorem describes_payloadLayer {length : Nat} (small : length + 4 < Limits.wordBound) :
    Describes (payloadLayer length).text (.payload (.wire (length + 4)) Limits.fillByte) := by
  have words : ∀ field ∈ (payloadLayer length).fields, IsWord field.2 := by
    intro field member
    rw [List.mem_singleton.1 member]
    exact isWord_decimal _
  refine describes_fragmentText words ?_
  -- The size is the only parameter; the fill byte keeps its default.
  have read := assignAll_join Layer.assignPayload (.unchanged, Limits.fillByte)
    (List.cons_ne_nil _ _) (Nat.le_of_ble_eq_true rfl) words
  have value := number_decimal Key.len.name small small
  refine map_eq_ok.2 ⟨(.wire (length + 4), Limits.fillByte), read.trans ?_, rfl⟩
  simp only [List.foldlM_cons, List.foldlM_nil, Layer.assignPayload, Key.ofText?_name,
    Limits.checkLength, value]
  rfl

/-! ## All layers -/

/-- A slash separates layers, whatever stands on its two sides. -/
theorem layerTexts_slash (s t : Text) :
    layerTexts (s ++ '/' :: t) = layerTexts s ++ layerTexts t := by
  simp only [layerTexts, List.splitOn_append_cons_self, List.map_append, List.filter_append]

/-- Texts with slashes between them have the layers of each. -/
theorem layerTexts_pieces (pieces : List Text) :
    layerTexts (join ['/'] pieces) = pieces.flatMap layerTexts := by
  induction pieces with
  | nil => rfl
  | cons piece rest ih =>
    cases rest with
    | nil => rw [join, List.intercalate_singleton, List.flatMap_singleton]
    | cons next others =>
      rw [join, List.intercalate_cons_cons, List.append_assoc, List.singleton_append,
        layerTexts_slash, List.flatMap_cons]
      exact congrArg (layerTexts piece ++ ·) ih

/-- A text without a slash is one layer; blanks around it do not count. -/
theorem layerTexts_of_solid {text : Text} (slash : '/' ∉ text) (solid : trim text ≠ []) :
    layerTexts text = [trim text] := by
  rw [layerTexts, List.splitOn_eq_singleton slash]
  exact filter_nonempty fun part member => List.mem_singleton.1 member ▸ solid

theorem layerTexts_of_describes {text : Text} {layer : Layer} (describes : Describes text layer) :
    layerTexts text = [text] := by
  have one := layerTexts_of_solid describes.slash (describes.trimmed.symm ▸ describes.nonempty)
  rwa [describes.trimmed] at one

section Layers

variable {parts : List (Text × Layer)}

theorem layerTexts_join (describes : ∀ part ∈ parts, Describes part.1 part.2) :
    layerTexts (join ['/'] (parts.map Prod.fst)) = parts.map Prod.fst := by
  have single : ∀ part ∈ parts, layerTexts part.1 = [part.1] := fun part member =>
    layerTexts_of_describes (describes part member)
  rw [layerTexts_pieces, List.flatMap_map, List.flatMap_def, List.map_congr_left single,
    ← List.flatMap_def, List.map_eq_flatMap]

/-- The tokens of the layers are found and read one after the other. -/
theorem scanLayers_of_describes (describes : ∀ part ∈ parts, Describes part.1 part.2)
    (index : Nat) :
    ∃ tokens, (Encoding.scanLayers false index (parts.map Prod.fst)).1 = .ok tokens ∧
      tokens.mapM Layer.ofToken = .ok (parts.map Prod.snd) := by
  induction parts generalizing index with
  | nil => exact ⟨[], rfl, rfl⟩
  | cons part rest ih =>
    rcases (describes part List.mem_cons_self).read with ⟨token, found, read⟩
    obtain ⟨tokens, scanned, others⟩ :=
      ih (fun part member => describes part (List.mem_cons_of_mem _ member)) (index + 1)
    refine ⟨token :: tokens, ?_, mapM_cons_eq_ok.2 ⟨part.2, _, read, others, rfl⟩⟩
    rw [List.map_cons, Encoding.scanLayers]
    simp only [found, scanned]
    rfl

/-- A description is read layer by layer. -/
theorem ofDescription_join (given : parts ≠ [])
    (describes : ∀ part ∈ parts, Describes part.1 part.2) (few : parts.length ≤ 31) :
    Layer.ofDescription (join ['/'] (parts.map Prod.fst)) = .ok (parts.map Prod.snd) := by
  -- Scanning reports the layers in order, which does not matter for what is read.
  rcases scanLayers_of_describes describes 0 with ⟨tokens, scanned, read⟩
  refine bind_eq_ok.2 ⟨tokens, ?_, read⟩
  have length : ¬ Limits.maxLayers < (parts.map Prod.fst).length := by
    rw [List.length_map]
    exact Nat.not_lt_of_le few
  unfold Encoding.scan splitLayers
  simp only [layerTexts_join describes, if_neg length]
  cases parts with
  | nil => exact absurd rfl given
  | cons part rest => exact scanned

end Layers

end FrameText
