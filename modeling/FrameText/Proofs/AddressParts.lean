import FrameText.Proofs.Addresses
import FrameText.Proofs.Digits
import FrameText.Proofs.LayerNames

/-!
# Address parts — which texts are hardware addresses, and of which octets

A hardware address is written in parts with colons or hyphens between them.  Six parts are its
octets, three parts are its words.

1. `Separated` says which parts a text has; `splitOnP_eq_iff` says that these are found.
2. `IsPart` says which texts are parts, and of which value; `octet?_eq_ok_iff` and
   `group?_eq_ok_iff` say that they are read so.
3. `parse_eq_ok_iff` says which address parts spell, and `exists_spelledBy_iff` which parts spell
   one.
4. `plain` takes away what does not count, the case of letters and the choice of separators;
   `parse_plain_eq_ok_iff` says that nothing is lost by it.
5. `parse_reads_parts` puts this together.
-/

namespace FrameText

namespace Text

variable {splits : Char → Bool} {s : Text} {parts : List Text} {f : Char → Char}

/-! ## Parts of a text -/

/-- Whether a text consists of these parts with one separator between neighbours. -/
inductive Separated (splits : Char → Bool) : Text → List Text → Prop where
  /-- A text without separators is one part. -/
  | last {part : Text} (solid : ∀ c ∈ part, splits c = false) : Separated splits part [part]
  /-- A part ends at the first separator. -/
  | next {part rest : Text} {mark : Char} {parts : List Text}
      (solid : ∀ c ∈ part, splits c = false) (marked : splits mark = true)
      (later : Separated splits rest parts) :
      Separated splits (part ++ mark :: rest) (part :: parts)

namespace Separated

/-- Any other character in front becomes the first character of the first part. -/
theorem cons {c : Char} (other : splits c = false) (separated : Separated splits s parts) :
    Separated splits (c :: s) (parts.modifyHead (c :: ·)) := by
  cases separated with
  | last solid => exact .last (List.forall_mem_cons.2 ⟨other, solid⟩)
  | next solid marked later => exact .next (List.forall_mem_cons.2 ⟨other, solid⟩) marked later

theorem splitOnP_eq (separated : Separated splits s parts) : s.splitOnP splits = parts := by
  induction separated with
  | last solid => exact List.splitOnP_eq_singleton solid
  | next solid marked _ ih =>
    rw [List.splitOnP_append_cons_of_forall_mem solid _ marked, ih]

/-- Parts have no separators in them. -/
theorem solid_of_mem (separated : Separated splits s parts) :
    ∀ part ∈ parts, ∀ c ∈ part, splits c = false := by
  induction separated with
  | last solid => exact List.forall_mem_singleton.2 solid
  | next solid _ _ ih => exact List.forall_mem_cons.2 ⟨solid, ih⟩

/-- Where separators stay separators, and no others are added, the parts stay in place. -/
theorem map (kept : ∀ c, splits (f c) = splits c) (separated : Separated splits s parts) :
    Separated splits (s.map f) (parts.map (List.map f)) := by
  have mapped : ∀ part : Text, (∀ c ∈ part, splits c = false) →
      ∀ c ∈ part.map f, splits c = false :=
    fun part solid => List.forall_mem_map.2 fun c member => (kept c).trans (solid c member)
  induction separated with
  | last solid => exact .last (mapped _ solid)
  | next solid marked _ ih =>
    rw [List.map_append, List.map_cons, List.map_cons]
    exact .next (mapped _ solid) ((kept _).trans marked) ih

end Separated

theorem separated_splitOnP (splits : Char → Bool) (s : Text) :
    Separated splits s (s.splitOnP splits) := by
  induction s with
  | nil => exact .last (List.forall_mem_nil _)
  | cons c s ih =>
    rw [List.splitOnP_cons_eq_if_modifyHead]
    split_ifs with marked
    · exact .next (List.forall_mem_nil _) marked ih
    · exact ih.cons (Bool.eq_false_iff.2 marked)

/-- Splitting finds the parts of a text, of which it has no others. -/
theorem splitOnP_eq_iff : s.splitOnP splits = parts ↔ Separated splits s parts :=
  ⟨fun found => found ▸ separated_splitOnP splits s, Separated.splitOnP_eq⟩

/-- Where blanks stay blank, and no others are added, the same characters are trimmed away. -/
theorem trim_map (kept : ∀ c, isBlank (f c) = isBlank c) (s : Text) :
    trim (s.map f) = (trim s).map f := by
  have same : isBlank ∘ f = isBlank := funext kept
  rw [trim, trimStart, List.dropWhile_map, same, trimEnd, ← List.map_reverse, List.dropWhile_map,
    same, ← List.map_reverse, trim, trimStart, trimEnd]

theorem length_le_byteLength (s : Text) : s.length ≤ byteLength s := by
  induction s with
  | nil => exact Nat.le_refl 0
  | cons c s ih =>
    have wide := c.utf8Size_pos
    rw [List.length_cons, byteLength_cons]
    omega

end Text

open Text

namespace MacAddress

variable {s t part : Text} {parts : List Text} {mac : MacAddress} {most n : Nat}

/-! ## Values of parts -/

/-- Whether a part of at most this many bytes has this value: it is made of hexadecimal digits, of
which there is one at least, behind at most one plus sign. -/
def IsPart (most : Nat) (part : Text) (n : Nat) : Prop :=
  1 ≤ byteLength part ∧ byteLength part ≤ most ∧ IsUnsigned 16 part n

theorem IsPart.lt (spelled : IsPart most part n) : n < 16 ^ most := by
  have length := (length_le_byteLength part).trans spelled.2.1
  exact (spelled.2.2.lt (by decide)).trans_le (Nat.pow_le_pow_right (by decide) length)

theorem lt_of_forall₂_isPart {values : List Nat}
    (spelled : List.Forall₂ (IsPart most) parts values) : ∀ n ∈ values, n < 16 ^ most := by
  intro n member
  have found := forall_exists_iff_forall₂.2 ⟨parts, spelled.flip⟩
  obtain ⟨part, value : IsPart most part n⟩ := found n member
  exact value.lt

/-- Reads a part of at most this many bytes. -/
def part? (most : Nat) (length digits : ValueFault) (part : Text) : Except ValueFault Nat :=
  if part = [] ∨ most < byteLength part then .error length
  else
    match unsignedBelow? 16 (16 ^ most) part with
    | some n => .ok n
    | none => .error digits

theorem part?_eq_ok_iff {length digits : ValueFault} :
    part? most length digits part = .ok n ↔ IsPart most part n := by
  unfold part?
  by_cases wrong : part = [] ∨ most < byteLength part
  · rw [if_pos wrong]
    refine iff_of_false (fun read => by cases read) ?_
    rintro ⟨given, short, -⟩
    rcases wrong with rfl | long
    · exact Nat.not_succ_le_zero 0 given
    · exact Nat.not_lt_of_le short long
  · rw [if_neg wrong]
    obtain ⟨given, short⟩ := not_or.1 wrong
    have shape : 1 ≤ byteLength part ∧ byteLength part ≤ most :=
      ⟨Nat.one_le_iff_ne_zero.2 (mt byteLength_eq_zero_iff.1 given), Nat.le_of_not_lt short⟩
    -- So few digits have no value that is too large.
    have read : unsignedBelow? 16 (16 ^ most) part = some n ↔ IsPart most part n := by
      rw [unsignedBelow?_eq_some_iff (Nat.le_refl 16)]
      exact ⟨fun found => ⟨shape.1, shape.2, found.1⟩, fun spelled => ⟨spelled.2.2, spelled.lt⟩⟩
    rw [← read]
    cases unsignedBelow? 16 (16 ^ most) part <;> simp

/-- Parts are read as what they stand for, where numbers of so many digits stand for everything. -/
theorem map_part?_eq_ok_iff {α : Type} {ofNat : Nat → α} {toNat : α → Nat}
    (ofNat_toNat : ∀ a, ofNat (toNat a) = a) (toNat_ofNat : ∀ n < 16 ^ most, toNat (ofNat n) = n)
    {length digits : ValueFault} {a : α} :
    (part? most length digits part).map ofNat = .ok a ↔ IsPart most part (toNat a) := by
  have back : ∀ n, part? most length digits part = .ok n → toNat (ofNat n) = n :=
    fun n read => toNat_ofNat n (part?_eq_ok_iff.1 read).lt
  rw [map_eq_ok_iff_of_inverse ofNat_toNat back, part?_eq_ok_iff]

theorem octet?_eq_ok_iff {b : UInt8} : octet? part = .ok b ↔ IsPart 2 part b.toNat := by
  have read : octet? part =
      (part? 2 .macOctetLength .macOctetDigits part).map UInt8.ofNat := by
    unfold octet? part?
    split_ifs
    · rfl
    · cases unsignedBelow? 16 256 part <;> rfl
  rw [read]
  exact map_part?_eq_ok_iff (fun b => UInt8.ofNat_toNat) fun n => UInt8.toNat_ofNat_of_lt'

/-- The word that two octets form. -/
def word (pair : UInt8 × UInt8) : Nat :=
  Bytes.beNat [pair.1, pair.2]

theorem group?_eq_ok_iff {pair : UInt8 × UInt8} :
    group? part = .ok pair ↔ IsPart 4 part (word pair) := by
  have read : group? part = (part? 4 .macGroupLength .macGroupDigits part).map
      fun n => (UInt8.ofNat (n / 256), UInt8.ofNat n) := by
    unfold group? part?
    split_ifs
    · rfl
    · cases unsignedBelow? 16 65536 part <;> rfl
  rw [read]
  refine map_part?_eq_ok_iff (fun pair => ?_) fun n => Bytes.beNat_beBytes_two
  -- The octets of a word are the bytes that it was read from.
  have bytes : Bytes.beBytes 2 (word pair) = [pair.1, pair.2] := Bytes.beBytes_beNat rfl
  obtain ⟨high, rest⟩ := List.cons.inj bytes
  exact Prod.ext high (List.cons.inj rest).1

/-! ## Spelled addresses -/

/-- The octets in pairs. -/
def pairs (mac : MacAddress) : List (UInt8 × UInt8) :=
  [(mac.a, mac.b), (mac.c, mac.d), (mac.e, mac.f)]

/-- The three words of an address, in network byte order. -/
def words (mac : MacAddress) : List Nat :=
  mac.pairs.map word

/-- Whether parts spell an address: six of them have its octets as values, or three of them its
words. -/
def SpelledBy (mac : MacAddress) (parts : List Text) : Prop :=
  List.Forall₂ (IsPart 2) parts (mac.octets.map UInt8.toNat) ∨
    List.Forall₂ (IsPart 4) parts mac.words

theorem ofParts_eq_ok_iff : ofParts parts = .ok mac ↔ mac.SpelledBy parts := by
  rw [SpelledBy, words, List.forall₂_map_right_iff, List.forall₂_map_right_iff]
  simp only [← octet?_eq_ok_iff, ← group?_eq_ok_iff]
  constructor
  · intro read
    unfold ofParts at read
    -- Six parts are read one by one, three parts too, and any other number is refused.
    split at read
    · obtain ⟨a, first, read⟩ := bind_eq_ok.1 read
      obtain ⟨b, second, read⟩ := bind_eq_ok.1 read
      obtain ⟨c, third, read⟩ := bind_eq_ok.1 read
      obtain ⟨d, fourth, read⟩ := bind_eq_ok.1 read
      obtain ⟨e, fifth, read⟩ := bind_eq_ok.1 read
      obtain ⟨f, sixth, read⟩ := bind_eq_ok.1 read
      cases read
      exact .inl (.cons first (.cons second (.cons third (.cons fourth (.cons fifth
        (.cons sixth .nil))))))
    · obtain ⟨ab, first, read⟩ := bind_eq_ok.1 read
      obtain ⟨cd, second, read⟩ := bind_eq_ok.1 read
      obtain ⟨ef, third, read⟩ := bind_eq_ok.1 read
      cases read
      exact .inr (.cons first (.cons second (.cons third .nil)))
    · cases read
  · rintro (six | three)
    · rcases six with
        _ | ⟨first, _ | ⟨second, _ | ⟨third, _ | ⟨fourth, _ | ⟨fifth, _ | ⟨sixth, _ | _⟩⟩⟩⟩⟩⟩
      simp only [ofParts, first, second, third, fourth, fifth, sixth]
      rfl
    · rcases three with _ | ⟨first, _ | ⟨second, _ | ⟨third, _ | _⟩⟩⟩
      simp only [ofParts, first, second, third]
      rfl

/-- Reading finds the address that the parts between the separators spell. -/
theorem parse_eq_ok_iff :
    parse s = .ok mac ↔ mac.SpelledBy ((trim s).splitOnP isSeparator) := by
  rw [parse, mapError_eq_ok, ofParts_eq_ok_iff]

theorem exists_octets {values : List Nat} (six : values.length = 6)
    (small : ∀ n ∈ values, n < 16 ^ 2) :
    ∃ mac : MacAddress, mac.octets.map UInt8.toNat = values := by
  have length : (values.map UInt8.ofNat).length = 6 := by rw [List.length_map, six]
  refine ⟨readAt (values.map UInt8.ofNat) 0, ?_⟩
  rw [octets_readAt (by omega), Bytes.slice_zero, List.take_of_length_le length.le, List.map_map]
  calc values.map (UInt8.toNat ∘ UInt8.ofNat)
      = values.map id :=
        List.map_congr_left fun n member => UInt8.toNat_ofNat_of_lt' (small n member)
    _ = values := List.map_id values

theorem exists_words {values : List Nat} (three : values.length = 3)
    (small : ∀ n ∈ values, n < 16 ^ 4) : ∃ mac : MacAddress, mac.words = values := by
  obtain ⟨x, y, z, rfl⟩ := List.length_eq_three.1 three
  simp only [List.forall_mem_cons] at small
  obtain ⟨first, second, third, -⟩ := small
  refine ⟨⟨UInt8.ofNat (x / 256), UInt8.ofNat x, UInt8.ofNat (y / 256), UInt8.ofNat y,
    UInt8.ofNat (z / 256), UInt8.ofNat z⟩, ?_⟩
  have value : ∀ n < 16 ^ 4, word (UInt8.ofNat (n / 256), UInt8.ofNat n) = n :=
    fun n => Bytes.beNat_beBytes_two
  simp only [words, pairs, List.map_cons, List.map_nil, value, first, second, third]

/-- The rows of parts that spell an address are those of six parts of one or two bytes, and of three
parts of one to four. -/
theorem exists_spelledBy_iff :
    (∃ mac : MacAddress, mac.SpelledBy parts) ↔
      (parts.length = 6 ∧ ∀ part ∈ parts, ∃ n, IsPart 2 part n) ∨
        (parts.length = 3 ∧ ∀ part ∈ parts, ∃ n, IsPart 4 part n) := by
  simp only [forall_exists_iff_forall₂]
  constructor
  · rintro ⟨mac, six | three⟩
    · exact .inl ⟨six.length_eq, _, six⟩
    · exact .inr ⟨three.length_eq, _, three⟩
  · rintro (⟨six, values, spelled⟩ | ⟨three, values, spelled⟩)
    · obtain ⟨mac, rfl⟩ := exists_octets (spelled.length_eq ▸ six) (lt_of_forall₂_isPart spelled)
      exact ⟨mac, .inl spelled⟩
    · obtain ⟨mac, rfl⟩ := exists_words (spelled.length_eq ▸ three) (lt_of_forall₂_isPart spelled)
      exact ⟨mac, .inr spelled⟩

/-! ## What does not count -/

/-- A character as a small letter, or as a colon if it is a separator. -/
def plainChar (c : Char) : Char :=
  if isSeparator c = true then ':' else c.toLower

/-- A text in small letters and with colons for hyphens. -/
def plain (s : Text) : Text :=
  s.map plainChar

/-- A text with hyphens for colons. -/
def hyphenated (s : Text) : Text :=
  s.map fun c => if c = ':' then '-' else c

theorem isSeparator_iff_toNat {c : Char} :
    isSeparator c = true ↔ c.toNat = 58 ∨ c.toNat = 45 := by
  rw [isSeparator, Bool.or_eq_true, beq_iff_eq, beq_iff_eq, ← Char.toNat_inj, ← Char.toNat_inj]
  rfl

/-- No letter is a separator. -/
theorem isSeparator_toLower (c : Char) : isSeparator c.toLower = isSeparator c := by
  rw [Bool.eq_iff_iff, isSeparator_iff_toNat, isSeparator_iff_toNat, toNat_toLower]
  split_ifs <;> omega

/-- No digit is a separator. -/
theorem isSeparator_of_isDigit {c : Char} {d : Nat} (digit : IsDigit 16 c d) :
    isSeparator c = false := by
  obtain ⟨below, code⟩ := (isDigit_iff_toNat (Nat.le_refl 16)).1 digit
  rw [Bool.eq_false_iff, ne_eq, isSeparator_iff_toNat]
  split_ifs at code <;> omega

/-- No separator is blank. -/
theorem isBlank_plainChar (c : Char) : isBlank (plainChar c) = isBlank c := by
  unfold plainChar
  split_ifs with marked
  · have codes := isSeparator_iff_toNat.1 marked
    have solid : isBlank c = false := by
      simp only [isBlank]
      rcases codes with code | code <;> rw [code] <;> rfl
    rw [solid]
    rfl
  · exact isBlank_toLower c

theorem isSeparator_plainChar (c : Char) : isSeparator (plainChar c) = isSeparator c := by
  unfold plainChar
  split_ifs with marked
  · rw [marked]
    rfl
  · exact isSeparator_toLower c

theorem isPart_lower_iff : IsPart most (lower part) n ↔ IsPart most part n := by
  rw [IsPart, IsPart, byteLength_lower, isUnsigned_lower_iff (Nat.le_refl 16)]

theorem spelledBy_map_lower_iff : mac.SpelledBy (parts.map lower) ↔ mac.SpelledBy parts := by
  simp only [SpelledBy, List.forall₂_map_left_iff, isPart_lower_iff]

/-- Parts have no separators, so that only the case of their letters changes. -/
theorem splitOnP_trim_plain (s : Text) :
    (trim (plain s)).splitOnP isSeparator = ((trim s).splitOnP isSeparator).map lower := by
  have separated := separated_splitOnP isSeparator (trim s)
  have same : ((trim s).splitOnP isSeparator).map (List.map plainChar) =
      ((trim s).splitOnP isSeparator).map lower := by
    refine List.map_congr_left fun part member => List.map_congr_left fun c inside => ?_
    exact if_neg (Bool.eq_false_iff.1 (separated.solid_of_mem part member c inside))
  rw [plain, trim_map isBlank_plainChar, ← same]
  exact (separated.map isSeparator_plainChar).splitOnP_eq

theorem parse_plain_eq_ok_iff : parse (plain s) = .ok mac ↔ parse s = .ok mac := by
  rw [parse_eq_ok_iff, splitOnP_trim_plain, spelledBy_map_lower_iff, parse_eq_ok_iff]

theorem parse_congr (same : plain s = plain t) : parse s = .ok mac ↔ parse t = .ok mac := by
  rw [← parse_plain_eq_ok_iff, same, parse_plain_eq_ok_iff]

theorem plain_lower (s : Text) : plain (lower s) = plain s := by
  rw [plain, lower, List.map_map]
  refine List.map_congr_left fun c _ => ?_
  rw [Function.comp_apply, plainChar, plainChar, isSeparator_toLower, toLower_toLower]

theorem plain_hyphenated (s : Text) : plain (hyphenated s) = plain s := by
  rw [plain, hyphenated, List.map_map]
  refine List.map_congr_left fun c _ => ?_
  by_cases colon : c = ':'
  · rw [Function.comp_apply, if_pos colon, colon]
    rfl
  · rw [Function.comp_apply, if_neg colon]

/-! ## Printed words -/

/-- The words in capitals with colons between them, and with zeros in front up to `width` digits. -/
def printWords (width : Nat) (mac : MacAddress) : Text :=
  join [':'] (mac.words.map (hexUpper width))

theorem word_lt (pair : UInt8 × UInt8) : word pair < 16 ^ 4 :=
  Bytes.beNat_lt_two rfl

theorem isPart_hexUpper {width : Nat} (positive : 0 < most) (wide : width ≤ most)
    (small : n < 16 ^ most) : IsPart most (hexUpper width n) n := by
  -- The digits are the same in small letters.
  rw [← isPart_lower_iff, lower_hexUpper, isPart_lower_iff]
  have spells := spells_hex width n
  have length := (spells.isWord (Nat.le_refl 16)).isAscii.byteLength
  rw [IsPart, length]
  exact ⟨List.length_pos_iff.2 spells.nonempty, length_hex_le positive small wide,
    .inl (spells.denotes (Nat.le_refl 16))⟩

theorem parse_printWords {width : Nat} (wide : width ≤ 4) (mac : MacAddress) :
    parse (mac.printWords width) = .ok mac := by
  have digits : ∀ part ∈ mac.words.map (hexUpper width), ∀ c ∈ part, ∃ d, IsDigit 16 c d := by
    intro part member c inside
    obtain ⟨n, -, rfl⟩ := List.mem_map.1 member
    exact exists_digit_of_mem_hexUpper inside
  have trimmed : trim (mac.printWords width) = mac.printWords width := by
    refine trim_of_forall fun c member => ?_
    rcases mem_join member with colon | ⟨part, inside, here⟩
    · rw [List.mem_singleton.1 colon]
      rfl
    · obtain ⟨d, digit⟩ := digits part inside c here
      exact solid_of_isDigit digit
  have found : (mac.printWords width).splitOnP isSeparator = mac.words.map (hexUpper width) := by
    refine splitOnP_join rfl (List.cons_ne_nil _ _) fun part inside c here => ?_
    obtain ⟨d, digit⟩ := digits part inside c here
    exact isSeparator_of_isDigit digit
  rw [parse_eq_ok_iff, trimmed, found]
  refine .inr (List.forall₂_map_left_iff.2 (List.forall₂_same.2 fun n member => ?_))
  obtain ⟨pair, -, rfl⟩ := List.mem_map.1 member
  exact isPart_hexUpper (by decide) wide (word_lt pair)

/-- Hardware addresses are read exactly from their parts.

1. Every text has one row of parts, which are what stands between its colons and hyphens.
2. A text is an address exactly if, without the blanks around it, it has six parts of one or two
   bytes or three parts of one to four, each of which is a row of hexadecimal digits, one at least,
   behind at most one plus sign.
3. The values of six parts are the octets of the address, and the values of three parts are its
   words, in network byte order.
4. Neither the case of letters counts nor which of the two separators stands at which place.
5. What an address is printed as is read as this address, in capitals or small letters, with colons
   or hyphens, and so are its words, with all zeros in front or without some of them. -/
theorem parse_reads_parts :
    (∀ s, ∃! parts, Separated isSeparator s parts) ∧
    (∀ s, (∃ mac, parse s = .ok mac) ↔ ∃ parts, Separated isSeparator (trim s) parts ∧
      ((parts.length = 6 ∧ ∀ part ∈ parts, ∃ n, IsPart 2 part n) ∨
        (parts.length = 3 ∧ ∀ part ∈ parts, ∃ n, IsPart 4 part n))) ∧
    (∀ s mac, parse s = .ok mac ↔ ∃ parts, Separated isSeparator (trim s) parts ∧
      (List.Forall₂ (IsPart 2) parts (mac.octets.map UInt8.toNat) ∨
        List.Forall₂ (IsPart 4) parts mac.words)) ∧
    (∀ s t mac, plain s = plain t → (parse s = .ok mac ↔ parse t = .ok mac)) ∧
    ∀ mac : MacAddress, parse mac.print = .ok mac ∧ parse (lower mac.print) = .ok mac ∧
      parse (hyphenated mac.print) = .ok mac ∧
        ∀ width ≤ 4, parse (mac.printWords width) = .ok mac := by
  simp only [← splitOnP_eq_iff]
  refine ⟨fun s => existsUnique_eq', fun s => ?_, fun s mac => ?_,
    fun s t mac => parse_congr, fun mac => ?_⟩
  · simp only [parse_eq_ok_iff, exists_spelledBy_iff, exists_eq_left']
  · simp only [parse_eq_ok_iff, SpelledBy, exists_eq_left']
  · exact ⟨mac.parse_print, (parse_congr (plain_lower mac.print)).2 mac.parse_print,
      (parse_congr (plain_hyphenated mac.print)).2 mac.parse_print,
      fun width wide => parse_printWords wide mac⟩

/-- Words with a sign, zeros in front and letters of both cases, between separators of both kinds,
with blanks around them that are not all single bytes. -/
theorem parse_reads_parts_mixed :
    let mac : MacAddress := ⟨0x00, 0x01, 0x00, 0xAB, 0x22, 0x01⟩
    let text : Text := "\u00A0+1-0aB:2201\n".toList
    let other : Text := "\u00A0+1:0Ab-2201\n".toList
    let parts : List Text := ["+1".toList, "0aB".toList, "2201".toList]
    (∀ part ∈ parts, ∃ n, IsPart 4 part n) ∧ parse text = .ok mac ∧ plain text = plain other ∧
      parse other = .ok mac ∧ 3 ≤ 4 ∧ mac.printWords 3 = "001:0AB:2201".toList ∧
        parse (mac.printWords 3) = .ok mac := by
  intro mac text other parts
  obtain ⟨-, -, reads, alike, prints⟩ := parse_reads_parts
  have numeral : ∀ {part : Text} {n : Nat}, unsignedBelow? 16 65536 part = some n →
      IsUnsigned 16 part n :=
    fun read => ((unsignedBelow?_eq_some_iff (Nat.le_refl 16)).1 read).1
  have spelled : List.Forall₂ (IsPart 4) parts mac.words :=
    .cons ⟨by decide, by decide, numeral (by decide)⟩
      (.cons ⟨by decide, by decide, numeral (by decide)⟩
        (.cons ⟨by decide, by decide, numeral (by decide)⟩ .nil))
  have separated : Separated isSeparator (trim text) parts := splitOnP_eq_iff.1 (by decide)
  have read : parse text = .ok mac := (reads text mac).2 ⟨parts, separated, .inr spelled⟩
  have same : plain text = plain other := by decide
  exact ⟨forall_exists_iff_forall₂.2 ⟨_, spelled⟩, read, same, (alike text other mac same).1 read,
    by decide, by decide, (prints mac).2.2.2 3 (by decide)⟩

end MacAddress

end FrameText
