import FrameText.Proofs.Digits
import FrameText.Proofs.Marks
import FrameText.Proofs.Slices
import FrameText.HexText
import Mathlib.Data.List.Induction

/-!
# Hex dumps — text that shows bytes, and what is read of it

1. `ShowsBytes` says which texts show bytes: pairs of digits in letters of any case, with blanks
   anywhere; `parse_eq_ok_iff` says that these are read, and as which bytes.
2. `parse_eq_error_iff` says how every other text fails.
3. `dumpLines_eq` gives the lines of a dump, and `showsBytes_spacedPairs` says that each of them
   shows its bytes.
4. `dump_loses_nothing` puts this together.
-/

namespace FrameText

open Text

namespace HexText

variable {digits text front behind : Text} {bytes : Bytes} {b : UInt8} {position d : Nat}

/-! ## Digits as bytes -/

/-- Whether a byte of text is a hexadecimal digit. -/
def IsHexDigit (b : UInt8) : Prop :=
  (0x30 ≤ b ∧ b ≤ 0x39) ∨ (0x41 ≤ b ∧ b ≤ 0x46) ∨ (0x61 ≤ b ∧ b ≤ 0x66)

instance (b : UInt8) : Decidable (IsHexDigit b) :=
  inferInstanceAs (Decidable (_ ∨ _ ∨ _))

theorem digit?_eq_some_iff : digit? b = some d ↔ IsDigit 16 (Char.ofNat b.toNat) d :=
  Text.digit?_eq_some_iff (Nat.le_refl 16)

theorem toNat_charOfByte (b : UInt8) : (Char.ofNat b.toNat).toNat = b.toNat := by
  have valid : b.toNat.isValidChar := .inl (b.toNat_lt.trans (by decide))
  exact congrArg Char.toNat (dif_pos valid)

theorem digit?_eq_none_iff : digit? b = none ↔ ¬ IsHexDigit b := by
  have code := toNat_charOfByte b
  simp only [digit?, Text.digit?, code, IsHexDigit, UInt8.le_iff_toNat_le, UInt8.reduceToNat]
  split_ifs <;> simp <;> omega

theorem exists_digit (digit : IsHexDigit b) : ∃ d, digit? b = some d :=
  Option.ne_none_iff_exists'.1 fun none => digit?_eq_none_iff.1 none digit

theorem hexDigits_cons (b : UInt8) (bytes : Bytes) :
    Bytes.hexDigits (b :: bytes) =
      Nat.digitChar (b.toNat / 16) :: Nat.digitChar (b.toNat % 16) :: Bytes.hexDigits bytes := by
  rw [Bytes.hexDigits, List.flatMap_cons, hex_byte b.toNat b.toNat_lt]
  rfl

/-! ## Reading pairs -/

theorem readPairs_eq_ok_nil_iff {ds : Bytes} : readPairs position ds = .ok [] ↔ ds = [] := by
  refine ⟨fun read => ?_, by rintro rfl; rfl⟩
  unfold readPairs at read
  split at read
  · rfl
  · cases read
  · split at read
    · cases read
    · cases read
    · obtain ⟨_, -, same⟩ := map_eq_ok.1 read
      cases same

theorem readPairs_eq_ok_cons_iff {ds : Bytes} :
    readPairs position ds = .ok (b :: bytes) ↔
      ∃ high low rest upper lower, ds = high :: low :: rest ∧ digit? high = some upper ∧
        digit? low = some lower ∧ b = UInt8.ofNat (upper * 16 + lower) ∧
          readPairs (position + 2) rest = .ok bytes := by
  constructor
  · intro read
    unfold readPairs at read
    split at read
    · cases read
    · cases read
    · rename_i high low rest
      split at read
      · cases read
      · cases read
      · rename_i upper lower first second
        obtain ⟨found, later, same⟩ := map_eq_ok.1 read
        cases same
        exact ⟨high, low, rest, upper, lower, rfl, first, second, rfl, later⟩
  · rintro ⟨high, low, rest, upper, lower, rfl, first, second, rfl, later⟩
    rw [readPairs, first, second]
    exact map_eq_ok.2 ⟨bytes, later, rfl⟩

/-- A digit among the bytes of a text is a character of it. -/
theorem exists_char_of_digit? {rest : Bytes} (encoded : utf8 digits = b :: rest)
    (digit : digit? b = some d) :
    ∃ c behind, digits = c :: behind ∧ IsDigit 16 c d ∧ utf8 behind = rest := by
  have ascii : b.toNat < 128 :=
    toNat_charOfByte b ▸ (digit?_eq_some_iff.1 digit).toNat_lt (Nat.le_refl 16)
  have first : (utf8 digits)[0]? = some b := by rw [encoded]; rfl
  obtain ⟨front, c, behind, rfl, nothing, same⟩ := exists_char_of_ascii first ascii
  obtain rfl := byteLength_eq_zero_iff.1 nothing
  have whole : c = Char.ofNat b.toNat := Char.toNat_inj.1 (same.trans (toNat_charOfByte b).symm)
  rw [List.nil_append, utf8_cons, utf8EncodeChar_of_ascii (same ▸ ascii)] at encoded
  exact ⟨c, behind, rfl, whole ▸ digit?_eq_some_iff.1 digit, (List.cons.inj encoded).2⟩

/-- A digit is a single byte of text, which is read as this digit. -/
theorem utf8EncodeChar_of_isDigit {c : Char} (digit : IsDigit 16 c d) :
    ∃ b, String.utf8EncodeChar c = [b] ∧ digit? b = some d := by
  have ascii : c.toNat < 128 := digit.toNat_lt (Nat.le_refl 16)
  refine ⟨_, utf8EncodeChar_of_ascii ascii, digit?_eq_some_iff.2 ?_⟩
  rw [UInt8.toNat_ofNat_of_lt' (ascii.trans (by decide)), Char.ofNat_toNat]
  exact digit

/-- The pairs that are read are the digits of the bytes, in letters of any case. -/
theorem readPairs_utf8_eq_ok_iff :
    readPairs position (utf8 digits) = .ok bytes ↔
      sameIgnoringCase digits (Bytes.hexDigits bytes) = true := by
  rw [sameIgnoringCase_iff]
  -- Each byte takes a pair of characters off the text.
  induction bytes generalizing position digits with
  | nil =>
    rw [readPairs_eq_ok_nil_iff, ← List.length_eq_zero_iff, length_utf8, byteLength_eq_zero_iff]
    exact List.map_eq_nil_iff.symm
  | cons b bytes ih =>
    rw [readPairs_eq_ok_cons_iff, hexDigits_cons]
    constructor
    · rintro ⟨first, second, rest, high, low, encoded, firstDigit, secondDigit, rfl, later⟩
      obtain ⟨c, _, rfl, digit, encoded⟩ := exists_char_of_digit? encoded firstDigit
      obtain ⟨e, behind, rfl, digit', rfl⟩ := exists_char_of_digit? encoded secondDigit
      have highSmall : high < 16 := digit.1
      have lowSmall : low < 16 := digit'.1
      have value : (UInt8.ofNat (high * 16 + low)).toNat = high * 16 + low :=
        UInt8.toNat_ofNat_of_lt' (by simp only [UInt8.size]; omega)
      have upper : (high * 16 + low) / 16 = high := by omega
      have lower : (high * 16 + low) % 16 = low := by omega
      rw [value, upper, lower]
      exact congrArg₂ List.cons ((isDigit_iff_toLower highSmall).1 digit)
        (congrArg₂ List.cons ((isDigit_iff_toLower lowSmall).1 digit') (ih.1 later))
    · intro same
      obtain ⟨c, _, rfl, first, same⟩ := List.map_eq_cons_iff.1 same
      obtain ⟨e, behind, rfl, second, same⟩ := List.map_eq_cons_iff.1 same
      have highSmall : b.toNat / 16 < 16 := by
        have := b.toNat_lt
        omega
      have lowSmall : b.toNat % 16 < 16 := Nat.mod_lt _ (by decide)
      have high := (isDigit_iff_toLower highSmall).2 first
      have low := (isDigit_iff_toLower lowSmall).2 second
      obtain ⟨x, encoded, digit⟩ := utf8EncodeChar_of_isDigit high
      obtain ⟨y, encoded', digit'⟩ := utf8EncodeChar_of_isDigit low
      refine ⟨x, y, utf8 behind, _, _, ?_, digit, digit', ?_, ih.2 same⟩
      · rw [utf8_cons, utf8_cons, encoded, encoded']
        rfl
      · rw [Nat.div_add_mod', UInt8.ofNat_toNat]

theorem length_of_readPairs {ds : Bytes} (read : readPairs position ds = .ok bytes) :
    ds.length = 2 * bytes.length := by
  induction bytes generalizing position ds with
  | nil =>
    rw [readPairs_eq_ok_nil_iff.1 read]
    rfl
  | cons b bytes ih =>
    obtain ⟨high, low, rest, _, _, rfl, -, -, -, later⟩ := readPairs_eq_ok_cons_iff.1 read
    simp only [List.length_cons, ih later]
    omega

/-! ## Failures -/

theorem readPairs_of_digits {ds : Bytes} (even : ds.length % 2 = 0)
    (all : ∀ b ∈ ds, IsHexDigit b) : ∃ bytes, readPairs position ds = .ok bytes := by
  induction ds using List.twoStepInduction generalizing position with
  | nil => exact ⟨[], rfl⟩
  | singleton b => cases even
  | cons_cons high low rest ih =>
    simp only [List.forall_mem_cons] at all
    obtain ⟨first, second, others⟩ := all
    obtain ⟨upper, digit⟩ := exists_digit first
    obtain ⟨lower, digit'⟩ := exists_digit second
    simp only [List.length_cons] at even
    obtain ⟨bytes, later⟩ := @ih (position + 2) (by omega) others
    exact ⟨_, readPairs_eq_ok_cons_iff.2
      ⟨high, low, rest, upper, lower, rfl, digit, digit', rfl, later⟩⟩

/-- The first byte that is no digit is blamed, with its place. -/
theorem readPairs_of_bad {behind front : Bytes} (even : (front ++ b :: behind).length % 2 = 0)
    (digits : ∀ c ∈ front, IsHexDigit c) (bad : ¬ IsHexDigit b) :
    readPairs position (front ++ b :: behind) = .error (.badDigit b (position + front.length)) := by
  have unread := digit?_eq_none_iff.2 bad
  -- Whole pairs are read in front of the byte, which is then the first or the second of its own.
  induction front using List.twoStepInduction generalizing position with
  | nil =>
    cases behind with
    | nil => cases even
    | cons low rest =>
      rw [List.nil_append, readPairs, unread]
      rfl
  | singleton c =>
    obtain ⟨d, digit⟩ := exists_digit (digits c List.mem_cons_self)
    rw [List.singleton_append, readPairs, digit, unread]
    rfl
  | cons_cons high low front ih =>
    simp only [List.forall_mem_cons] at digits
    obtain ⟨first, second, others⟩ := digits
    obtain ⟨upper, digit⟩ := exists_digit first
    obtain ⟨lower, digit'⟩ := exists_digit second
    simp only [List.cons_append, List.length_cons] at even
    have later := @ih (position + 2) (by omega) others
    rw [List.cons_append, List.cons_append, readPairs, digit, digit', later]
    simp only [Except.map, List.length_cons]
    congr 2
    omega

theorem exists_first_bad {ds : Bytes} (some : ¬ ∀ b ∈ ds, IsHexDigit b) :
    ∃ front b behind, ds = front ++ b :: behind ∧ (∀ c ∈ front, IsHexDigit c) ∧ ¬ IsHexDigit b := by
  cases found : ds.find? (fun b => !decide (IsHexDigit b)) with
  | none => exact absurd (by simpa using List.find?_eq_none.1 found) some
  | some b =>
    obtain ⟨bad, front, behind, whole, before⟩ := List.find?_eq_some_iff_append.1 found
    exact ⟨front, b, behind, whole, by simpa using before, by simpa using bad⟩

/-! ## Texts that show bytes -/

/-- Whether a text is made of these characters, in order, and of blanks anywhere. -/
inductive Spaced : Text → Text → Prop where
  | nil : Spaced [] []
  | blank {c : Char} {digits text : Text} :
      isBlank c = true → Spaced digits text → Spaced digits (c :: text)
  | next (c : Char) {digits text : Text} :
      Spaced digits text → Spaced (c :: digits) (c :: text)

/-- Whether a text shows bytes: it has their digits, in letters of any case, and blanks anywhere. -/
def ShowsBytes (text : Text) (bytes : Bytes) : Prop :=
  ∃ digits, sameIgnoringCase digits (Bytes.hexDigits bytes) = true ∧ Spaced digits text

theorem spaced_filter (text : Text) : Spaced (text.filter (!isBlank ·)) text := by
  induction text with
  | nil => exact .nil
  | cons c text ih =>
    by_cases blank : isBlank c = true
    · simpa [blank] using Spaced.blank blank ih
    · simpa [blank] using Spaced.next c ih

theorem Spaced.filter (spaced : Spaced digits text) (solid : ∀ c ∈ digits, isBlank c = false) :
    text.filter (!isBlank ·) = digits := by
  induction spaced with
  | nil => rfl
  | blank blank _ ih => simpa [blank] using ih solid
  | next c _ ih =>
    rw [List.forall_mem_cons] at solid
    simpa [solid.1] using ih solid.2

/-- No blank is among the digits of bytes. -/
theorem solid_of_sameIgnoringCase (same : sameIgnoringCase digits (Bytes.hexDigits bytes) = true) :
    ∀ c ∈ digits, isBlank c = false := by
  intro c member
  have inside : c.toLower ∈ lower (Bytes.hexDigits bytes) :=
    sameIgnoringCase_iff.1 same ▸ List.mem_map_of_mem member
  obtain ⟨e, inDigits, case⟩ := List.mem_map.1 inside
  obtain ⟨b, -, inByte⟩ := List.mem_flatMap.1 inDigits
  obtain ⟨d, small, rfl⟩ := (spells_hex 2 b.toNat).digits e inByte
  exact solid_of_isDigit ((isDigit_iff_toLower small).2 case.symm)

theorem parse_eq_ok_iff : parse text = .ok bytes ↔ ShowsBytes text bytes := by
  have read : parse text = .ok bytes ↔
      readPairs 0 (utf8 (text.filter (!isBlank ·))) = .ok bytes := by
    simp only [parse]
    rw [mapError_eq_ok]
    split_ifs with odd
    · -- What is refused for its length would not be read in pairs.
      refine iff_of_false (by simp) fun read => ?_
      have := length_of_readPairs read
      omega
    · rfl
  rw [read, readPairs_utf8_eq_ok_iff]
  constructor
  · exact fun same => ⟨_, same, spaced_filter text⟩
  · rintro ⟨digits, same, spaced⟩
    rw [spaced.filter (solid_of_sameIgnoringCase same)]
    exact same

/-- Whether this is what a text fails with that shows no bytes: an odd number of bytes is looked at
before any digit. -/
def Fails (text : Text) (e : Error) : Prop :=
  let digits := utf8 (text.filter (!isBlank ·))
  (digits.length % 2 = 1 ∧ e = .invalidHex .oddLength) ∨
    digits.length % 2 = 0 ∧ ∃ front b behind, digits = front ++ b :: behind ∧
      (∀ c ∈ front, IsHexDigit c) ∧ ¬ IsHexDigit b ∧ e = .invalidHex (.badDigit b front.length)

theorem parse_eq_error_iff {e : Error} : parse text = .error e ↔ Fails text e := by
  simp only [parse, Fails]
  generalize utf8 (text.filter (!isBlank ·)) = ds
  by_cases odd : ds.length % 2 = 1
  · rw [if_pos odd]
    constructor
    · intro failed
      cases failed
      exact .inl ⟨odd, rfl⟩
    · rintro (⟨-, rfl⟩ | ⟨even, -⟩)
      · rfl
      · omega
  · rw [if_neg odd]
    have even : ds.length % 2 = 0 := by omega
    constructor
    · intro failed
      by_cases all : ∀ b ∈ ds, IsHexDigit b
      · obtain ⟨bytes, read⟩ := @readPairs_of_digits 0 ds even all
        rw [read] at failed
        cases failed
      · obtain ⟨front, b, behind, rfl, before, bad⟩ := exists_first_bad all
        rw [readPairs_of_bad even before bad, Nat.zero_add] at failed
        cases failed
        exact .inr ⟨even, front, b, behind, rfl, before, bad, rfl⟩
    · rintro (⟨same, -⟩ | ⟨-, front, b, behind, rfl, before, bad, rfl⟩)
      · exact absurd same odd
      · rw [readPairs_of_bad even before bad, Nat.zero_add]
        rfl

theorem exists_error_iff :
    (∃ e, parse text = .error e) ↔
      (utf8 (text.filter (!isBlank ·))).length % 2 = 1 ∨
        ∃ b ∈ utf8 (text.filter (!isBlank ·)), ¬ IsHexDigit b := by
  simp only [parse_eq_error_iff, Fails]
  generalize utf8 (text.filter (!isBlank ·)) = ds
  constructor
  · rintro ⟨e, ⟨odd, -⟩ | ⟨-, front, b, behind, rfl, -, bad, -⟩⟩
    · exact .inl odd
    · exact .inr ⟨b, List.mem_append_right _ List.mem_cons_self, bad⟩
  · intro wrong
    by_cases odd : ds.length % 2 = 1
    · exact ⟨_, .inl ⟨odd, rfl⟩⟩
    · obtain ⟨b, member, bad⟩ := wrong.resolve_left odd
      obtain ⟨front, b, behind, whole, before, bad⟩ :=
        exists_first_bad fun all => bad (all b member)
      exact ⟨_, .inr ⟨by omega, front, b, behind, whole, before, bad, rfl⟩⟩

/-! ## Texts put together -/

theorem Spaced.refl (digits : Text) : Spaced digits digits := by
  induction digits with
  | nil => exact .nil
  | cons c digits ih => exact .next c ih

theorem Spaced.append {more rest : Text} (first : Spaced digits text) (second : Spaced more rest) :
    Spaced (digits ++ more) (text ++ rest) := by
  induction first with
  | nil => exact second
  | blank blank _ ih => exact .blank blank ih
  | next c _ ih => exact .next c ih

theorem ShowsBytes.append {rest : Text} {more : Bytes} (first : ShowsBytes text bytes)
    (second : ShowsBytes rest more) : ShowsBytes (text ++ rest) (bytes ++ more) := by
  obtain ⟨digits, same, spaced⟩ := first
  obtain ⟨digits', same', spaced'⟩ := second
  refine ⟨digits ++ digits', ?_, spaced.append spaced'⟩
  rw [sameIgnoringCase_iff] at same same' ⊢
  rw [Bytes.hexDigits, List.flatMap_append, lower_append, lower_append, same, same']
  rfl

theorem showsBytes_of_blank {gap : Text} (blank : ∀ c ∈ gap, isBlank c = true) :
    ShowsBytes gap [] := by
  refine ⟨[], rfl, ?_⟩
  induction gap with
  | nil => exact .nil
  | cons c gap ih =>
    rw [List.forall_mem_cons] at blank
    exact .blank blank.1 (ih blank.2)

/-- Texts with blanks between them show what they show one behind the other. -/
theorem showsBytes_join {α : Type} {shown : α → Text} {chunk : α → Bytes} {gap : Text}
    (blank : ∀ c ∈ gap, isBlank c = true) (items : List α)
    (each : ∀ item ∈ items, ShowsBytes (shown item) (chunk item)) :
    ShowsBytes (join gap (items.map shown)) (items.flatMap chunk) := by
  induction items with
  | nil => exact ⟨[], rfl, .nil⟩
  | cons item items ih =>
    rw [List.forall_mem_cons] at each
    have later := ih each.2
    cases items with
    | nil =>
      rw [List.flatMap_singleton, List.map_singleton, join, List.intercalate_singleton]
      exact each.1
    | cons next others =>
      have between := (each.1.append (showsBytes_of_blank blank)).append later
      rw [List.append_nil] at between
      rw [List.map_cons, List.map_cons, join, List.intercalate_cons_cons]
      exact between

theorem showsBytes_spacedPairs (bytes : Bytes) : ShowsBytes (spacedPairs bytes) bytes := by
  have each : ∀ b ∈ bytes, ShowsBytes (hexUpper 2 b.toNat) [b] := by
    refine fun b _ => ⟨_, sameIgnoringCase_iff.2 ?_, .refl _⟩
    rw [Bytes.hexDigits, List.flatMap_singleton, lower_hexUpper]
  have blank : ∀ c ∈ [' '], isBlank c = true := List.forall_mem_singleton.2 (by decide)
  have joined := showsBytes_join blank bytes each
  rwa [List.flatMap_singleton'] at joined

/-! ## Dumps -/

theorem dumpLines_eq (offset : Nat) (data : Bytes) :
    dumpLines offset data =
      (List.range ((data.length + 15) / 16)).map fun i =>
        dumpLine (offset + 16 * i) (Bytes.slice data (16 * i) 16) := by
  induction offset, data using dumpLines.induct with
  | case1 offset =>
    rw [dumpLines, if_pos rfl]
    rfl
  | case2 offset data given ih =>
    have positive := List.length_pos_iff.2 given
    have count : (data.length + 15) / 16 = ((data.drop lineLength).length + 15) / 16 + 1 := by
      rw [List.length_drop, lineLength]
      omega
    -- The first line moves all others by one.
    rw [dumpLines, if_neg given, ih, count, List.range_succ_eq_map, List.map_cons, List.map_map]
    refine congrArg₂ List.cons rfl (List.map_congr_left fun i _ => ?_)
    have place : offset + lineLength + 16 * i = offset + 16 * (i + 1) := by
      rw [lineLength]
      omega
    have inside : lineLength + 16 * i = 16 * (i + 1) := by
      rw [lineLength]
      omega
    rw [Function.comp, place, Bytes.slice, Bytes.slice, List.drop_drop, inside]

/-- The bytes of the first lines. -/
theorem flatMap_slice (data : Bytes) (count : Nat) :
    (List.range count).flatMap (fun i => Bytes.slice data (16 * i) 16) =
      data.take (16 * count) := by
  induction count with
  | zero => rfl
  | succ count ih =>
    rw [List.range_succ, List.flatMap_append, ih, List.flatMap_singleton, Nat.mul_succ,
      List.take_add]
    rfl

theorem cut?_dumpLine (offset : Nat) (bytes : Bytes) :
    cut? ": ".toList (dumpLine offset bytes) = some (hex 4 offset, spacedPairs bytes) := by
  have word := (spells_hex 4 offset).isWord (Nat.le_refl 16)
  -- The place has no blank in it, so that the mark stands behind it for the first time.
  have first : ¬ [':', ' '] <:+: hex 4 offset ++ [':'] := by
    intro inside
    have member : ' ' ∈ hex 4 offset ++ [':'] := inside.subset (by decide)
    rcases List.mem_append.1 member with here | here
    · exact absurd (word.isBlank_eq_false _ here) (by decide)
    · exact absurd here (by decide)
  have cut := cut?_of_first first (spacedPairs bytes)
  rw [dumpLine, List.append_assoc]
  exact cut

theorem not_newline_of_mem_dumpLine {offset : Nat} {c : Char} (member : c ∈ dumpLine offset bytes) :
    c ≠ '\n' := by
  have solid : ∀ {e : Char}, isBlank e = false → e ≠ '\n' := by
    rintro e solid rfl
    exact absurd solid (by decide)
  rcases List.mem_append.1 member with front | pair
  · rcases List.mem_append.1 front with digit | mark
    · exact solid (((spells_hex 4 offset).isWord (Nat.le_refl 16)).isBlank_eq_false c digit)
    · exact fun same => absurd (same ▸ mark) (by decide)
  · rcases mem_join pair with space | ⟨part, inside, here⟩
    · exact fun same => absurd (same ▸ space) (by decide)
    · obtain ⟨b, -, rfl⟩ := List.mem_map.1 inside
      obtain ⟨d, digit⟩ := exists_digit_of_mem_hexUpper here
      exact solid (solid_of_isDigit digit)

theorem splitOn_dump {bytes : Bytes} (given : bytes ≠ []) :
    (dump bytes).splitOn '\n' = dumpLines 0 bytes := by
  refine splitOnP_join (by decide) ?_ ?_
  · rw [dumpLines, if_neg given]
    exact List.cons_ne_nil _ _
  · intro line member c inside
    rw [dumpLines_eq] at member
    obtain ⟨i, -, rfl⟩ := List.mem_map.1 member
    exact beq_eq_false_iff_ne.2 (not_newline_of_mem_dumpLine inside)

theorem le_length_hex (width n : Nat) : width ≤ (hex width n).length := by
  rw [hex, List.leftpad, List.length_append, List.length_replicate]
  omega

/-- The lines of a dump are cut into places and parts, and the parts show the bytes. -/
theorem exists_parts_of_dump {bytes : Bytes} (given : bytes ≠ []) :
    ∃ parts : List Text, parts.length = (bytes.length + 15) / 16 ∧
      ((dump bytes).splitOn '\n').map (cut? ": ".toList) =
        parts.mapIdx (fun i part => some (hex 4 (16 * i), part)) ∧
      (∀ i part, parts[i]? = some part → parse part = .ok (Bytes.slice bytes (16 * i) 16)) ∧
      ∀ gap, (∀ c ∈ gap, isBlank c = true) → parse (join gap parts) = .ok bytes := by
  let lines := List.range ((bytes.length + 15) / 16)
  let shown : Nat → Text := fun i => spacedPairs (Bytes.slice bytes (16 * i) 16)
  have each : ∀ i ∈ lines, ShowsBytes (shown i) (Bytes.slice bytes (16 * i) 16) :=
    fun i _ => showsBytes_spacedPairs _
  refine ⟨lines.map shown, by simp [lines], ?_, ?_, ?_⟩
  · rw [splitOn_dump given, dumpLines_eq]
    refine List.ext_getElem (by simp [lines]) fun i _ _ => ?_
    simp only [List.getElem_map, List.getElem_mapIdx, List.getElem_range, cut?_dumpLine,
      Nat.zero_add, lines, shown]
  · intro i part found
    obtain ⟨inside, rfl⟩ := List.getElem?_eq_some_iff.1 found
    rw [List.getElem_map, List.getElem_range]
    exact parse_eq_ok_iff.2 (showsBytes_spacedPairs _)
  · intro gap blank
    have joined := showsBytes_join blank lines each
    rw [flatMap_slice, List.take_of_length_le (by omega)] at joined
    exact parse_eq_ok_iff.2 joined

/-- Neither hex text nor dumps lose anything.

1. Text is read as bytes exactly if it has the digits of these bytes, in letters of any case, and
   blanks anywhere.
2. Any other text fails, as it has an odd number of bytes besides blanks or one that is no digit.
3. An odd number is what it fails with first; otherwise it is the first byte that is no digit, with
   its place.
4. A dump of bytes has a line for every sixteen of them and one for those that are left.  A line is
   cut at its colon into the place of its first byte and a part that shows its bytes.  All parts,
   with any blanks between them, show all bytes.
5. Places are written with at least four digits. -/
theorem dump_loses_nothing :
    (∀ text bytes, parse text = .ok bytes ↔ ShowsBytes text bytes) ∧
    (∀ text, (∃ e, parse text = .error e) ↔
      (utf8 (text.filter (!isBlank ·))).length % 2 = 1 ∨
        ∃ b ∈ utf8 (text.filter (!isBlank ·)), ¬ IsHexDigit b) ∧
    (∀ text e, parse text = .error e ↔ Fails text e) ∧
    (∀ bytes ≠ [], ∃ parts : List Text, parts.length = (bytes.length + 15) / 16 ∧
      ((dump bytes).splitOn '\n').map (cut? ": ".toList) =
        parts.mapIdx (fun i part => some (hex 4 (16 * i), part)) ∧
      (∀ i part, parts[i]? = some part → parse part = .ok (Bytes.slice bytes (16 * i) 16)) ∧
      ∀ gap, (∀ c ∈ gap, isBlank c = true) → parse (join gap parts) = .ok bytes) ∧
    ∀ n, Denotes 16 (hex 4 n) n ∧ 4 ≤ (hex 4 n).length :=
  ⟨fun _ _ => parse_eq_ok_iff, fun _ => exists_error_iff, fun _ _ => parse_eq_error_iff,
    fun _ given => exists_parts_of_dump given,
    fun n => ⟨(spells_hex 4 n).denotes (Nat.le_refl 16), le_length_hex 4 n⟩⟩

/-- Two bytes with a wide blank between the digits of the first, and seventeen on two lines. -/
theorem dump_loses_nothing_two_lines :
    let bytes : Bytes := (List.range 17).map UInt8.ofNat
    bytes ≠ [] ∧ parse "a\u3000B cD ".toList = .ok [0xAB, 0xCD] ∧
      ∃ first second : Text, ((dump bytes).splitOn '\n').map (cut? ": ".toList) =
          [some ("0000".toList, first), some ("0010".toList, second)] ∧
        parse (join ['\u2003'] [first, second]) = .ok bytes := by
  intro bytes
  obtain ⟨reads, -, -, dumps, -⟩ := dump_loses_nothing
  have given : bytes ≠ [] := List.cons_ne_nil _ _
  have mixed : ShowsBytes "a\u3000B cD ".toList [0xAB, 0xCD] := by
    have spaced : Spaced "aBcD".toList "a\u3000B cD ".toList :=
      spaced_filter "a\u3000B cD ".toList
    exact ⟨_, by decide, spaced⟩
  obtain ⟨parts, count, cuts, -, shown⟩ := dumps bytes given
  have two : parts.length = 2 := by simp [count, bytes]
  obtain ⟨first, second, rfl⟩ := List.length_eq_two.1 two
  have blank : ∀ c ∈ ['\u2003'], isBlank c = true := List.forall_mem_singleton.2 (by decide)
  have places : hex 4 (16 * 0) = "0000".toList ∧ hex 4 (16 * (0 + 1)) = "0010".toList := by decide
  rw [List.mapIdx_cons, List.mapIdx_cons, List.mapIdx_nil, places.1, places.2] at cuts
  exact ⟨given, (reads _ _).2 mixed, first, second, cuts, shown ['\u2003'] blank⟩

end HexText

end FrameText
