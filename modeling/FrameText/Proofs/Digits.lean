import FrameText.Dissection.Fragment
import FrameText.Proofs.Numerals
import Mathlib.Data.List.Forall2
import Mathlib.Data.Nat.Digits.Defs

/-!
# Digits — which texts are numbers, and which numbers they are

A numeral is a row of digits behind at most one plus sign.  It is hexadecimal behind the mark `0x`
and decimal otherwise, and it may start with any number of zeros.

1. `IsDigit` and `Denotes` give digits and rows of digits their values, and `IsUnsigned` and
   `IsNumeral` add the sign and the mark.
2. `digits?_eq_some_iff`, `unsigned?_eq_some_iff` and `number?_eq_some_iff` say that these are the
   texts that are read, and the values that they are read as.
3. `isUnsigned_lower_iff` says that the case of letters does not count, and `IsUnsigned.lt` bounds a
   number by its places.
4. `register?_eq` says that a register of limited width, which is filled digit by digit, gives up on
   the numbers that do not fit and on no others.
5. `number_reads_numerals` puts this together for the values of parameters.
-/

namespace FrameText

/-- Every element is related to something exactly if the list is related to some list. -/
theorem forall_exists_iff_forall₂ {α β : Type} {relation : α → β → Prop} {as : List α} :
    (∀ a ∈ as, ∃ b, relation a b) ↔ ∃ bs, List.Forall₂ relation as bs := by
  induction as with
  | nil => exact iff_of_true (List.forall_mem_nil _) ⟨[], .nil⟩
  | cons a as ih =>
    rw [List.forall_mem_cons, ih]
    constructor
    · rintro ⟨⟨b, first⟩, bs, later⟩
      exact ⟨b :: bs, .cons first later⟩
    · rintro ⟨_, related⟩
      cases related with
      | cons first later => exact ⟨⟨_, first⟩, _, later⟩

namespace Text

variable {base n : Nat} {s t : Text}

/-! ## Digits -/

/-- Whether a character is the digit of this value below `base`, which is at most sixteen.  From ten
on, letters of either case are digits. -/
def IsDigit (base : Nat) (c : Char) (d : Nat) : Prop :=
  d < base ∧ (c = Nat.digitChar d ∨ c = (Nat.digitChar d).toUpper)

instance (base : Nat) (c : Char) (d : Nat) : Decidable (IsDigit base c d) :=
  inferInstanceAs (Decidable (_ ∧ _))

theorem toNat_toUpper_digitChar {d : Nat} (small : d < 16) :
    (Nat.digitChar d).toUpper.toNat = if d < 10 then 48 + d else 55 + d := by
  revert d
  decide

/-- The codes of digits: ten from `0` on, and six each from `A` and from `a` on. -/
theorem isDigit_iff_toNat {c : Char} {d : Nat} (most : base ≤ 16) :
    IsDigit base c d ↔ d < base ∧
      if d < 10 then c.toNat = 48 + d else c.toNat = 87 + d ∨ c.toNat = 55 + d := by
  refine and_congr_right fun below => ?_
  have small : d < 16 := Nat.lt_of_lt_of_le below most
  rw [← Char.toNat_inj, ← Char.toNat_inj, toNat_digitChar small, toNat_toUpper_digitChar small]
  by_cases decimal : d < 10
  · simp only [if_pos decimal, or_self]
  · simp only [if_neg decimal]

theorem digit?_eq_some_iff {c : Char} {d : Nat} (most : base ≤ 16) :
    digit? base c = some d ↔ IsDigit base c d := by
  rw [isDigit_iff_toNat most]
  simp only [digit?, Option.ite_none_right_eq_some, Option.some.injEq]
  constructor
  · rintro ⟨below, rfl⟩
    refine ⟨below, ?_⟩
    split_ifs at below ⊢ <;> omega
  · rintro ⟨below, code⟩
    split_ifs at code ⊢ <;> omega

/-- Digits are single bytes of text. -/
theorem IsDigit.toNat_lt {c : Char} {d : Nat} (digit : IsDigit base c d) (most : base ≤ 16) :
    c.toNat < 128 := by
  obtain ⟨below, code⟩ := (isDigit_iff_toNat most).1 digit
  split_ifs at code <;> omega

/-- A digit is not blank. -/
theorem solid_of_isDigit {c : Char} {d : Nat} (digit : IsDigit 16 c d) : isBlank c = false := by
  obtain ⟨below, code⟩ := (isDigit_iff_toNat (Nat.le_refl 16)).1 digit
  simp only [isBlank, Bool.or_eq_false_iff, Bool.and_eq_false_iff, decide_eq_false_iff_not,
    beq_eq_false_iff_ne]
  split_ifs at code <;> omega

/-! ### Letter case -/

/-- Digits are the same up to the case of letters. -/
theorem isDigit_iff_toLower {c : Char} {d : Nat} (small : d < 16) :
    IsDigit 16 c d ↔ c.toLower = (Nat.digitChar d).toLower := by
  rw [isDigit_iff_toNat (Nat.le_refl 16), and_iff_right small, ← Char.toNat_inj, toNat_toLower,
    toNat_toLower, toNat_digitChar small]
  split_ifs <;> omega

theorem isDigit_toLower_iff {c : Char} {d : Nat} (most : base ≤ 16) :
    IsDigit base c.toLower d ↔ IsDigit base c d := by
  rw [isDigit_iff_toNat most, isDigit_iff_toNat most, toNat_toLower]
  refine and_congr_right fun below => ?_
  split_ifs <;> omega

theorem exists_digit_of_mem_hexUpper {width : Nat} {c : Char} (member : c ∈ hexUpper width n) :
    ∃ d, IsDigit 16 c d := by
  obtain ⟨e, inside, rfl⟩ := List.mem_map.1 member
  obtain ⟨d, small, rfl⟩ := (spells_hex width n).digits e inside
  exact ⟨d, small, .inr rfl⟩

theorem lower_hexUpper (width n : Nat) : lower (hexUpper width n) = lower (hex width n) := by
  rw [lower, hexUpper, List.map_map]
  refine List.map_congr_left fun c member => ?_
  obtain ⟨d, small, rfl⟩ := (spells_hex width n).digits c member
  exact (isDigit_iff_toLower small).1 ⟨small, .inr rfl⟩

/-! ## Rows of digits -/

/-- Whether a text is a non-empty row of digits that denotes this number, the last digit being worth
its value and every other `base` times as much as at the place behind it. -/
def Denotes (base : Nat) (s : Text) (n : Nat) : Prop :=
  s ≠ [] ∧ ∃ values, List.Forall₂ (IsDigit base) s values ∧
    Nat.ofDigits base values.reverse = n

/-- Digits are read behind a number by moving it up by as many places. -/
theorem readDigits_eq_some_iff (most : base ≤ 16) {value : Nat} :
    readDigits base value s = some n ↔
      ∃ values, List.Forall₂ (IsDigit base) s values ∧
        Nat.ofDigits base values.reverse + base ^ values.length * value = n := by
  induction s generalizing value with
  | nil => simp [readDigits]
  | cons c s ih =>
    have moved : ∀ (d : Nat) (values : List Nat),
        Nat.ofDigits base values.reverse + base ^ values.length * (value * base + d) =
          Nat.ofDigits base (d :: values).reverse + base ^ (d :: values).length * value := by
      intro d values
      rw [List.reverse_cons, Nat.ofDigits_append, Nat.ofDigits_singleton, List.length_reverse,
        List.length_cons, pow_succ]
      ring
    rw [readDigits]
    constructor
    · intro read
      cases digit : digit? base c with
      | none => rw [digit] at read; cases read
      | some d =>
        rw [digit] at read
        obtain ⟨values, spelled, value⟩ := ih.1 read
        exact ⟨d :: values, .cons ((digit?_eq_some_iff most).1 digit) spelled,
          (moved d values).symm.trans value⟩
    · rintro ⟨_ | ⟨d, values⟩, spelled, value⟩
      · cases spelled
      · obtain ⟨digit, spelled⟩ := List.forall₂_cons.1 spelled
        simp only [(digit?_eq_some_iff most).2 digit]
        exact ih.2 ⟨values, spelled, (moved d values).trans value⟩

theorem digits?_eq_some_iff (most : base ≤ 16) : digits? base s = some n ↔ Denotes base s n := by
  cases s with
  | nil => exact iff_of_false (by simp [digits?]) fun denotes => denotes.1 rfl
  | cons c s =>
    simp only [digits?]
    rw [readDigits_eq_some_iff most, Denotes, and_iff_right (List.cons_ne_nil c s)]
    simp only [Nat.mul_zero, Nat.add_zero]

/-- Printed numbers denote what they were printed from. -/
theorem Spells.denotes (spells : Spells base s n) (most : base ≤ 16) : Denotes base s n :=
  (digits?_eq_some_iff most).1 spells.digits?_eq

/-- A row of digits has only digits in it. -/
theorem Denotes.exists_digit (denotes : Denotes base s n) :
    ∀ c ∈ s, ∃ d, IsDigit base c d := by
  obtain ⟨-, values, spelled, -⟩ := denotes
  exact forall_exists_iff_forall₂.2 ⟨values, spelled⟩

/-- Digits of either case denote the same number. -/
theorem denotes_lower_iff (most : base ≤ 16) : Denotes base (lower s) n ↔ Denotes base s n := by
  simp only [Denotes, lower, ne_eq, List.map_eq_nil_iff, List.forall₂_map_left_iff,
    isDigit_toLower_iff most]

/-- A number is bounded by the power of the base with as many places. -/
theorem Denotes.lt (denotes : Denotes base s n) (several : 1 < base) : n < base ^ s.length := by
  obtain ⟨-, values, spelled, rfl⟩ := denotes
  have below : ∀ d ∈ values.reverse, d < base := by
    intro d member
    have found := forall_exists_iff_forall₂.2 ⟨s, spelled.flip⟩
    obtain ⟨c, digit : IsDigit base c d⟩ := found d (List.mem_reverse.1 member)
    exact digit.1
  rw [spelled.length_eq, ← List.length_reverse]
  exact Nat.ofDigits_lt_base_pow_length several below

theorem denotes_singleton_iff {c : Char} : Denotes base [c] n ↔ IsDigit base c n := by
  simp [Denotes, List.forall₂_cons_left_iff]

theorem denotes_pair_iff {c d : Char} :
    Denotes base [c, d] n ↔
      ∃ upper lower, IsDigit base c upper ∧ IsDigit base d lower ∧ n = upper * base + lower := by
  have value : ∀ upper lower, lower + base * upper = n ↔ n = upper * base + lower := by
    intro upper lower
    rw [Nat.add_comm, Nat.mul_comm, eq_comm]
  simp [Denotes, List.forall₂_cons_left_iff, Nat.ofDigits_cons, and_assoc, value]

/-! ## Numerals -/

/-- Whether a text is a row of digits that denotes this number, behind at most one plus sign. -/
def IsUnsigned (base : Nat) (s : Text) (n : Nat) : Prop :=
  Denotes base s n ∨ ∃ digits, s = '+' :: digits ∧ Denotes base digits n

theorem unsigned?_eq_some_iff (most : base ≤ 16) :
    unsigned? base s = some n ↔ IsUnsigned base s n := by
  unfold unsigned?
  split
  · rename_i digits
    -- A plus sign is no digit.
    have signed : ¬ Denotes base ('+' :: digits) n := by
      intro denotes
      obtain ⟨d, digit⟩ := denotes.exists_digit _ List.mem_cons_self
      have code := ((isDigit_iff_toNat most).1 digit).2
      split_ifs at code <;> simp at code <;> omega
    rw [digits?_eq_some_iff most, IsUnsigned, or_iff_right signed]
    simp
  · rename_i plain
    rw [digits?_eq_some_iff most, IsUnsigned, or_iff_left]
    rintro ⟨digits, rfl, -⟩
    exact plain digits rfl

theorem unsignedBelow?_eq_some_iff (most : base ≤ 16) {bound : Nat} :
    unsignedBelow? base bound s = some n ↔ IsUnsigned base s n ∧ n < bound := by
  rw [unsignedBelow?, Option.filter_eq_some_iff, unsigned?_eq_some_iff most, decide_eq_true_iff]

theorem isUnsigned_lower_iff (most : base ≤ 16) :
    IsUnsigned base (lower s) n ↔ IsUnsigned base s n := by
  refine or_congr (denotes_lower_iff most) ⟨?_, ?_⟩
  · rintro ⟨digits, signed, denotes⟩
    cases s with
    | nil => cases signed
    | cons c rest =>
      obtain ⟨sign, rfl⟩ := List.cons.inj signed
      -- No letter becomes a plus sign.
      have code := congrArg Char.toNat sign
      rw [toNat_toLower] at code
      have same : c.toNat = '+'.toNat := by
        split_ifs at code <;> simp at code ⊢ <;> omega
      obtain rfl := Char.toNat_inj.1 same
      exact ⟨rest, rfl, (denotes_lower_iff most).1 denotes⟩
  · rintro ⟨digits, rfl, denotes⟩
    exact ⟨lower digits, rfl, (denotes_lower_iff most).2 denotes⟩

/-- A sign takes up a place and adds nothing. -/
theorem IsUnsigned.lt (unsigned : IsUnsigned base s n) (several : 1 < base) :
    n < base ^ s.length := by
  rcases unsigned with denotes | ⟨digits, rfl, denotes⟩
  · exact denotes.lt several
  · exact (denotes.lt several).trans (Nat.pow_lt_pow_right several (Nat.lt_succ_self _))

/-- Whether a text is a numeral that denotes this number: decimal, or hexadecimal behind `0x`. -/
inductive IsNumeral : Text → Nat → Prop where
  | decimal {s : Text} {n : Nat} : IsUnsigned 10 s n → IsNumeral s n
  | hexadecimal {x : Char} {s : Text} {n : Nat} :
      x = 'x' ∨ x = 'X' → IsUnsigned 16 s n → IsNumeral ('0' :: x :: s) n

theorem hexMarked?_eq_some_iff {digits : Text} :
    hexMarked? s = some digits ↔ ∃ x, (x = 'x' ∨ x = 'X') ∧ s = '0' :: x :: digits := by
  unfold hexMarked?
  split <;> simp_all

theorem number?_eq_some_iff {bound : Nat} :
    number? bound s = some n ↔ IsNumeral s n ∧ n < bound := by
  cases marked : hexMarked? s with
  | some digits =>
    obtain ⟨x, mark, rfl⟩ := hexMarked?_eq_some_iff.1 marked
    -- The mark is no decimal digit.
    have notDecimal : ¬ IsUnsigned 10 ('0' :: x :: digits) n := by
      rintro (denotes | ⟨digits, other, -⟩)
      · obtain ⟨d, digit⟩ := denotes.exists_digit _ (List.mem_cons_of_mem _ List.mem_cons_self)
        obtain ⟨below, code⟩ := (isDigit_iff_toNat (by decide)).1 digit
        rw [if_pos below] at code
        rcases mark with rfl | rfl <;> simp at code <;> omega
      · cases other
    simp only [number?, marked]
    rw [unsignedBelow?_eq_some_iff (Nat.le_refl 16)]
    refine and_congr_left fun _ => ⟨.hexadecimal mark, fun numeral => ?_⟩
    cases numeral with
    | decimal spelled => exact absurd spelled notDecimal
    | hexadecimal _ spelled => exact spelled
  | none =>
    simp only [number?, marked]
    rw [unsignedBelow?_eq_some_iff (by decide)]
    refine and_congr_left fun _ => ⟨.decimal, fun numeral => ?_⟩
    cases numeral with
    | decimal spelled => exact spelled
    | hexadecimal mark spelled =>
      rw [hexMarked?_eq_some_iff.2 ⟨_, mark, rfl⟩] at marked
      cases marked

/-! ## Registers -/

/-- Reads digits into a register that holds numbers below `bound`: with each digit the number so far
is moved up by one place, and reading ends where the result does not fit. -/
def register? (base bound : Nat) : Nat → Text → Option Nat
  | value, [] => some value
  | value, c :: cs =>
    match digit? base c with
    | some d =>
      if value * base + d < bound then register? base bound (value * base + d) cs else none
    | none => none

/-- Digits behind a number make it no smaller. -/
theorem le_of_readDigits (positive : 0 < base) {value : Nat}
    (read : readDigits base value s = some n) : value ≤ n := by
  induction s generalizing value with
  | nil => exact Nat.le_of_eq (Option.some.inj read)
  | cons c s ih =>
    rw [readDigits] at read
    split at read
    · have later := ih read
      have moved : value ≤ value * base := Nat.le_mul_of_pos_right value positive
      omega
    · cases read

/-- A number that does not fit after some digit does not fit after the last, however many zeros
stand in front of it. -/
theorem register?_eq (positive : 0 < base) {bound value : Nat} (fits : value < bound) :
    register? base bound value s = (readDigits base value s).filter (· < bound) := by
  induction s generalizing value with
  | nil => simp [register?, readDigits, Option.filter_some, fits]
  | cons c s ih =>
    rw [register?, readDigits]
    cases digit? base c with
    | none => rfl
    | some d =>
      by_cases small : value * base + d < bound
      · simp only [if_pos small, ih small]
      · simp only [if_neg small]
        refine (Option.filter_eq_none_iff.2 fun n read => ?_).symm
        have least := le_of_readDigits positive read
        simpa using (Nat.not_lt.1 small).trans least

end Text

open Text

/-! ## Values -/

theorem number_eq_ok_iff {bound n : Nat} {key value : Text} (word : bound ≤ Limits.wordBound) :
    number bound key value = .ok n ↔ IsNumeral (trim value) n ∧ n < bound := by
  have read : number bound key value = .ok n ↔
      number? Limits.wordBound (trim value) = some n ∧ n < bound := by
    simp only [number]
    cases number? Limits.wordBound (trim value) with
    | none => simp
    | some m =>
      by_cases small : m < bound
      · simp only [if_pos small, Except.ok.injEq, Option.some.injEq]
        exact ⟨fun same => ⟨same, same ▸ small⟩, And.left⟩
      · simp only [if_neg small, Option.some.injEq]
        exact iff_of_false (by simp) fun same => small (same.1 ▸ same.2)
  rw [read, number?_eq_some_iff, and_assoc, and_congr_right_iff]
  exact fun _ => and_iff_right_of_imp fun small => small.trans_le word

/-- A value is read as a word exactly if it is a numeral that fits into the word. -/
theorem map_number_eq_ok_iff {α : Type} {ofNat : Nat → α} {toNat : α → Nat} {bound : Nat}
    (word : bound ≤ Limits.wordBound) (small : ∀ a, toNat a < bound)
    (ofNat_toNat : ∀ a, ofNat (toNat a) = a) (toNat_ofNat : ∀ n < bound, toNat (ofNat n) = n)
    {key value : Text} {a : α} :
    (number bound key value).map ofNat = .ok a ↔ IsNumeral (trim value) (toNat a) := by
  have back : ∀ n, number bound key value = .ok n → toNat (ofNat n) = n :=
    fun n found => toNat_ofNat n ((number_eq_ok_iff word).1 found).2
  rw [map_eq_ok_iff_of_inverse ofNat_toNat back, number_eq_ok_iff word, and_iff_left (small a)]

/-- Whether a text shows this number, either in decimal or behind `0x` with zeros in front up to
some number of digits. -/
def ShowsNumber (text : Text) (n : Nat) : Prop :=
  text = decimal n ∨ ∃ digits, text = hexMarked digits n

theorem number_of_showsNumber {bound n : Nat} {text : Text} (key : Text) (below : n < bound)
    (word : bound ≤ Limits.wordBound) (shown : ShowsNumber text n) :
    number bound key text = .ok n := by
  rcases shown with rfl | ⟨digits, rfl⟩
  · exact number_decimal key below (below.trans_le word)
  · exact number_hexMarked key digits below (below.trans_le word)

/-- What a header shows besides addresses and the names of protocols are numbers. -/
theorem FoundHeader.showsNumber_fields (header : FoundHeader) :
    ∀ field ∈ header.fragment.fields,
      field.1 = .dst ∨ field.1 = .src ∨
        (field.1 = .proto ∧ field.2 ∈ ["tcp".toList, "udp".toList]) ∨
        ∃ n < 2 ^ 64, ShowsNumber field.2 n := by
  have decimals : ∀ n < 2 ^ 64, ∃ m < 2 ^ 64, ShowsNumber (decimal n) m :=
    fun n small => ⟨n, small, .inl rfl⟩
  have marked : ∀ digits, ∀ n < 2 ^ 64, ∃ m < 2 ^ 64, ShowsNumber (hexMarked digits n) m :=
    fun digits n small => ⟨n, small, .inr ⟨digits, rfl⟩⟩
  -- Fields of all widths fit into 64 bits, and so do the halves of an octet.
  have flag : ∀ b : Bool, b.toNat < 2 ^ 64 := fun b => b.toNat_lt.trans (by decide)
  have octet : ∀ b : UInt8, b.toNat < 2 ^ 64 := fun b => b.toNat_lt.trans (by decide)
  have short : ∀ w : UInt16, w.toNat < 2 ^ 64 := fun w => w.toNat_lt.trans (by decide)
  have long : ∀ w : UInt32, w.toNat < 2 ^ 64 := fun w => w.toNat_lt.trans (by decide)
  have upper : ∀ b : UInt8, b.toNat / 16 < 2 ^ 64 := fun b =>
    (Nat.div_le_self _ _).trans_lt (octet b)
  have lower : ∀ b : UInt8, b.toNat % 16 < 2 ^ 64 := fun b =>
    (Nat.mod_le _ _).trans_lt (octet b)
  have protocol : ∀ protocol : IpProtocol, protocol.print ∈ ["tcp".toList, "udp".toList] ∨
      ∃ n < 2 ^ 64, ShowsNumber protocol.print n := by
    rintro (_ | _ | value)
    · exact .inl (by decide)
    · exact .inl (by decide)
    · exact .inr (decimals _ (octet value))
  cases header
  all_goals
    simp only [fragment, fields, List.forall_mem_cons, List.not_mem_nil, false_imp_iff,
      implies_true, and_true, true_and, false_and, true_or, or_true, false_or, reduceCtorEq,
      IPv4Header.version, IPv4Header.words, decimals, marked, flag, octet, short, long,
      UInt64.toNat_lt, upper, lower, protocol]

/-- Values are read as numbers exactly as numerals denote them.

1. A value is read as a number of up to 64 bits exactly if it is, without the blanks around it, a
   numeral for this number: at most one plus sign and decimal digits, or `0x` or `0X`, at most one
   plus sign and hexadecimal digits.  There is at least one digit, and zeros in front do not count.
2. The same holds of the four words that parameters are read as.
3. What a number is shown as is read as this number.
4. This is how dissection shows numbers: every field is an address, the name of a protocol, or a
   number that is shown so.
5. A register of limited width, which is filled digit by digit, has the same numbers. -/
theorem number_reads_numerals :
    (∀ width ≤ 64, ∀ key value n,
      number (2 ^ width) key value = .ok n ↔ IsNumeral (trim value) n ∧ n < 2 ^ width) ∧
    (∀ key value,
      (∀ word, uint8 key value = .ok word ↔ IsNumeral (trim value) word.toNat) ∧
      (∀ word, uint16 key value = .ok word ↔ IsNumeral (trim value) word.toNat) ∧
      (∀ word, uint32 key value = .ok word ↔ IsNumeral (trim value) word.toNat) ∧
      ∀ word, uint64 key value = .ok word ↔ IsNumeral (trim value) word.toNat) ∧
    (∀ width ≤ 64, ∀ key text, ∀ n < 2 ^ width, ShowsNumber text n →
      number (2 ^ width) key text = .ok n) ∧
    (∀ header : FoundHeader, ∀ field ∈ header.fragment.fields,
      field.1 = .dst ∨ field.1 = .src ∨
        (field.1 = .proto ∧ field.2 ∈ ["tcp".toList, "udp".toList]) ∨
        ∃ n < 2 ^ 64, ShowsNumber field.2 n) ∧
    (∀ length, ∀ field ∈ (payloadLayer length).fields,
      ShowsNumber field.2 (length + Limits.checkLength)) ∧
    ∀ base, 0 < base → ∀ width ≤ 64, ∀ digits ≠ [],
      register? base (2 ^ width) 0 digits = (digits? base digits).filter (· < 2 ^ width) := by
  have word : ∀ width ≤ 64, 2 ^ width ≤ Limits.wordBound := fun width most =>
    Nat.pow_le_pow_right (by decide) most
  refine ⟨fun width most key value n => number_eq_ok_iff (word width most), fun key value =>
    ⟨fun w => ?_, fun w => ?_, fun w => ?_, fun w => ?_⟩, ?_,
    FoundHeader.showsNumber_fields, ?_, ?_⟩
  · exact map_number_eq_ok_iff (by decide) UInt8.toNat_lt (fun w => UInt8.ofNat_toNat)
      fun n => UInt8.toNat_ofNat_of_lt'
  · exact map_number_eq_ok_iff (by decide) UInt16.toNat_lt (fun w => UInt16.ofNat_toNat)
      fun n => UInt16.toNat_ofNat_of_lt'
  · exact map_number_eq_ok_iff (by decide) UInt32.toNat_lt (fun w => UInt32.ofNat_toNat)
      fun n => UInt32.toNat_ofNat_of_lt'
  · exact map_number_eq_ok_iff (by decide) UInt64.toNat_lt (fun w => UInt64.ofNat_toNat)
      fun n => UInt64.toNat_ofNat_of_lt'
  · exact fun width most key text n below shown =>
      number_of_showsNumber key below (word width most) shown
  · intro length field member
    rw [List.mem_singleton.1 member]
    exact .inl rfl
  · intro base positive width most digits given
    rw [register?_eq positive (Nat.two_pow_pos width)]
    cases digits with
    | nil => exact absurd rfl given
    | cons c digits => rfl

/-- The largest number of 16 bits behind more zeros than a word has digits, with a sign, a capital
mark and letters of both cases, and the largest number of 64 bits as dissection shows it. -/
theorem number_reads_numerals_largest :
    let padded : Text := "\t0X+0000000000000000000000fFfF ".toList
    let shown : Text := "0xffffffffffffffff".toList
    16 ≤ 64 ∧ IsNumeral (trim padded) 65535 ∧ number (2 ^ 16) [] padded = .ok 65535 ∧
      ShowsNumber shown (2 ^ 64 - 1) ∧ number (2 ^ 64) [] shown = .ok (2 ^ 64 - 1) := by
  intro padded shown
  obtain ⟨reads, -, inverts, -⟩ := number_reads_numerals
  have numeral : IsNumeral (trim padded) 65535 :=
    ((@number?_eq_some_iff 65535 (trim padded) 65536).1 (by decide)).1
  have largest : ShowsNumber shown (2 ^ 64 - 1) := .inr ⟨16, by decide⟩
  exact ⟨by decide, numeral, (reads 16 (by decide) [] padded 65535).2 ⟨numeral, by decide⟩, largest,
    inverts 64 (by decide) [] shown _ (by decide) largest⟩

end FrameText
