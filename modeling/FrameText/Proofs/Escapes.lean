import FrameText.Proofs.Digits
import FrameText.Proofs.Slices

/-!
# Escapes — which texts stand for bytes, and for which

The parameter of a literal is a text between quotes.  It is made of items: characters other than the
backslash, which stand for their UTF-8 bytes, and escapes, which stand for one byte.

1. `Item` lists the items; `unescape_eq_ok_iff` says that the texts that are read are rows of them.
2. `readAt` reads the bytes of a text at a cursor that is counted in bytes; `unescapeFrom_append`
   says that this is the same, and `exists_escape_of_escapeAt` that escapes are cut out as whole
   characters.
3. `Encloses` says what is left of the parameter without its parentheses, blanks and quotes.
4. `parse_reads_items` puts this together.
-/

namespace FrameText

open Text

namespace RawText

/-! ## Items -/

/-- Whether two characters behind `\x` spell a byte: two digits, or a digit behind a plus sign. -/
def IsPair (first second : Char) (n : Nat) : Prop :=
  (∃ upper lower, IsDigit 16 first upper ∧ IsDigit 16 second lower ∧ n = upper * 16 + lower) ∨
    (first = '+' ∧ IsDigit 16 second n)

/-- What stands behind a backslash. -/
inductive Escape where
  /-- A backslash or a quote, which stands for itself. -/
  | mark (c : Char) (known : c = '\\' ∨ c = '\'')
  /-- A byte that two characters spell. -/
  | pair (x first second : Char) (n : Nat) (marked : x = 'x' ∨ x = 'X')
      (spelled : IsPair first second n)

namespace Escape

/-- How an escape is written behind its backslash. -/
def text : Escape → Text
  | mark c _ => [c]
  | pair x first second _ _ _ => [x, first, second]

/-- The byte that an escape stands for. -/
def byte : Escape → UInt8
  | mark c _ => UInt8.ofNat c.toNat
  | pair _ _ _ n _ _ => UInt8.ofNat n

end Escape

/-- A piece of a text that stands for bytes. -/
inductive Item where
  /-- A character that stands for its UTF-8 bytes. -/
  | plain (c : Char) (other : c ≠ '\\')
  /-- A backslash and what stands behind it. -/
  | escaped (escape : Escape)

namespace Item

/-- How an item is written. -/
def text : Item → Text
  | plain c _ => [c]
  | escaped escape => '\\' :: escape.text

/-- What an item stands for. -/
def bytes : Item → Bytes
  | plain c _ => String.utf8EncodeChar c
  | escaped escape => [escape.byte]

theorem length_text_pos (item : Item) : 0 < item.text.length := by
  cases item <;> exact Nat.succ_pos _

/-- Items are no shorter than what they stand for. -/
theorem length_bytes_le (item : Item) : item.bytes.length ≤ byteLength item.text := by
  cases item with
  | plain c => simp [bytes, text]
  | escaped escape => exact Nat.le_add_right_of_le (Char.utf8Size_pos _)

end Item

variable {s rest front behind digits body params : Text} {b : UInt8} {bytes : Bytes}
variable {first second : Char} {i n next : Nat}

theorem isUnsigned_pair_iff : IsUnsigned 16 [first, second] n ↔ IsPair first second n := by
  rw [IsUnsigned, IsPair, denotes_pair_iff]
  refine or_congr_right ⟨?_, ?_⟩
  · rintro ⟨digits, same, denotes⟩
    obtain ⟨rfl, rfl⟩ := List.cons.inj same
    exact ⟨rfl, denotes_singleton_iff.1 denotes⟩
  · rintro ⟨rfl, digit⟩
    exact ⟨[second], rfl, denotes_singleton_iff.2 digit⟩

theorem utf8Size_of_isDigit {c : Char} {d : Nat} (digit : IsDigit 16 c d) : c.utf8Size = 1 :=
  utf8Size_eq_one_iff.2 (digit.toNat_lt (Nat.le_refl 16))

theorem IsPair.utf8Size (spelled : IsPair first second n) :
    first.utf8Size = 1 ∧ second.utf8Size = 1 := by
  rcases spelled with ⟨upper, lower, high, low, -⟩ | ⟨rfl, low⟩
  · exact ⟨utf8Size_of_isDigit high, utf8Size_of_isDigit low⟩
  · exact ⟨by decide, utf8Size_of_isDigit low⟩

theorem IsPair.lt (spelled : IsPair first second n) : n < 256 := by
  rcases spelled with ⟨upper, lower, high, low, rfl⟩ | ⟨-, low⟩
  · have := high.1
    have := low.1
    omega
  · exact low.1.trans (by decide)

/-! ## Escapes -/

/-- What is spelled is cut out as two bytes of text. -/
theorem escapedByte?_eq (s : Text) :
    escapedByte? s =
      match splitBytes? 2 s with
      | none => .error .shortEscape
      | some (digits, behind) =>
        match unsignedBelow? 16 256 digits with
        | some n => .ok (UInt8.ofNat n, behind)
        | none => .error .badEscape := by
  cases s with
  | nil => rfl
  | cons c cs =>
    have wide := c.utf8Size_pos
    -- Two bytes are two characters, or one that is no digit; otherwise they end inside of one.
    obtain single | double | wider : c.utf8Size = 1 ∨ c.utf8Size = 2 ∨ 2 < c.utf8Size := by omega
    · cases cs with
      | nil => simp [escapedByte?, splitBytes?, single]
      | cons d rest =>
        have wide := d.utf8Size_pos
        by_cases single' : d.utf8Size = 1
        · have found : splitBytes? 2 (c :: d :: rest) = some ([c, d], rest) :=
            splitBytes?_eq_some_iff.2 ⟨rfl, by simp [single, single']⟩
          rw [escapedByte?, if_neg (by omega), found]
          exact if_pos ⟨single, single'⟩
        · have wider : ¬ d.utf8Size ≤ 1 := by omega
          simp [escapedByte?, splitBytes?, single, single', wider]
    · have found : splitBytes? 2 (c :: cs) = some ([c], cs) :=
        splitBytes?_eq_some_iff.2 ⟨rfl, double⟩
      have unspelled : unsignedBelow? 16 256 [c] = none := by
        refine Option.eq_none_iff_forall_ne_some.2 fun n found => ?_
        obtain ⟨spelled, -⟩ := (unsignedBelow?_eq_some_iff (Nat.le_refl 16)).1 found
        rcases spelled with denotes | ⟨_, same, denotes⟩
        · have single := utf8Size_of_isDigit (denotes_singleton_iff.1 denotes)
          omega
        · exact denotes.1 (List.cons.inj same).2.symm
      simp only [found, unspelled, escapedByte?, if_pos double]
    · have single : c.utf8Size ≠ 1 := by omega
      cases cs with
      | nil => simp [escapedByte?, splitBytes?, wider.ne', Nat.not_le.2 wider]
      | cons d rest => simp [escapedByte?, splitBytes?, single, wider.ne', Nat.not_le.2 wider]

/-- Reads an escape behind its backslash. -/
def escape? : Text → Except ValueFault (UInt8 × Text)
  | [] => .error .unknownEscape
  | d :: tail =>
    if d = 'x' ∨ d = 'X' then escapedByte? tail
    else if d = '\\' ∨ d = '\'' then .ok (UInt8.ofNat d.toNat, tail)
    else .error .unknownEscape

theorem escapedByte?_eq_ok_iff :
    escapedByte? s = .ok (b, behind) ↔
      ∃ first second n, IsPair first second n ∧ s = first :: second :: behind ∧
        b = UInt8.ofNat n := by
  constructor
  · intro read
    obtain ⟨first, second, rfl⟩ := eq_of_escapedByte?_eq_ok read
    simp only [escapedByte?] at read
    split_ifs at read
    split at read
    · rename_i n found
      obtain ⟨spelled, -⟩ := (unsignedBelow?_eq_some_iff (Nat.le_refl 16)).1 found
      exact ⟨first, second, n, isUnsigned_pair_iff.1 spelled, rfl, by cases read; rfl⟩
    · cases read
  · rintro ⟨first, second, n, spelled, rfl, rfl⟩
    obtain ⟨single, single'⟩ := spelled.utf8Size
    have found : unsignedBelow? 16 256 [first, second] = some n :=
      (unsignedBelow?_eq_some_iff (Nat.le_refl 16)).2 ⟨isUnsigned_pair_iff.2 spelled, spelled.lt⟩
    simp [escapedByte?, single, single', found]

theorem escape?_eq_ok_iff :
    escape? rest = .ok (b, behind) ↔
      ∃ escape : Escape, rest = escape.text ++ behind ∧ b = escape.byte := by
  constructor
  · intro read
    cases rest with
    | nil => cases read
    | cons d tail =>
      simp only [escape?] at read
      split_ifs at read with marked known
      · obtain ⟨first, second, n, spelled, rfl, rfl⟩ := escapedByte?_eq_ok_iff.1 read
        exact ⟨.pair d first second n marked spelled, rfl, rfl⟩
      · cases read
        exact ⟨.mark d known, rfl, rfl⟩
  · rintro ⟨escape, rfl, rfl⟩
    cases escape with
    | mark c known =>
      have unmarked : ¬ (c = 'x' ∨ c = 'X') := by rcases known with rfl | rfl <;> decide
      exact (if_neg unmarked).trans (if_pos known)
    | pair x first second n marked spelled =>
      exact (if_pos marked).trans (escapedByte?_eq_ok_iff.2 ⟨first, second, n, spelled, rfl, rfl⟩)

/-! ## Rows of items -/

theorem unescape_nil : unescape [] = .ok [] := by
  rw [unescape]

theorem unescape_plain {c : Char} (other : c ≠ '\\') :
    unescape (c :: rest) = (unescape rest).map (String.utf8EncodeChar c ++ ·) := by
  rw [unescape.eq_def]
  simp only [if_neg other]

theorem unescape_backslash :
    unescape ('\\' :: rest) =
      escape? rest >>= fun found => (unescape found.2).map (found.1 :: ·) := by
  rw [unescape.eq_def]
  simp only [↓reduceIte]
  cases rest with
  | nil => rfl
  | cons d tail =>
    simp only [escape?]
    split_ifs
    · split
      · rename_i fault read
        rw [read]
        rfl
      · rename_i b behind read
        rw [read]
        rfl
    · rfl
    · rfl

theorem unescape_append (item : Item) :
    unescape (item.text ++ rest) = (unescape rest).map (item.bytes ++ ·) := by
  cases item with
  | plain c other => exact unescape_plain other
  | escaped escape =>
    have read : escape? (escape.text ++ rest) = .ok (escape.byte, rest) :=
      escape?_eq_ok_iff.2 ⟨escape, rfl, rfl⟩
    rw [Item.text, List.cons_append, unescape_backslash, read]
    rfl

/-- A text that is read is empty or starts with an item. -/
theorem exists_item_of_unescape (read : unescape s = .ok bytes) :
    (s = [] ∧ bytes = []) ∨
      ∃ (item : Item) (rest : Text) (found : Bytes),
        s = item.text ++ rest ∧ unescape rest = .ok found ∧ bytes = item.bytes ++ found := by
  cases s with
  | nil =>
    rw [unescape_nil] at read
    cases read
    exact .inl ⟨rfl, rfl⟩
  | cons c rest =>
    by_cases other : c ≠ '\\'
    · rw [unescape_plain other] at read
      obtain ⟨found, inner, rfl⟩ := map_eq_ok.1 read
      exact .inr ⟨.plain c other, rest, found, rfl, inner, rfl⟩
    · obtain rfl := not_not.1 other
      rw [unescape_backslash] at read
      obtain ⟨⟨b, behind⟩, first, read⟩ := bind_eq_ok.1 read
      obtain ⟨escape, rfl, rfl⟩ := escape?_eq_ok_iff.1 first
      obtain ⟨found, inner, rfl⟩ := map_eq_ok.1 read
      exact .inr ⟨.escaped escape, behind, found, rfl, inner, rfl⟩

/-- The texts that are read are the rows of items. -/
theorem unescape_eq_ok_iff :
    unescape s = .ok bytes ↔
      ∃ items : List Item, s = items.flatMap Item.text ∧ bytes = items.flatMap Item.bytes := by
  constructor
  · -- Items are taken off the front, and what is left behind one of them is shorter.
    induction length : s.length using Nat.strong_induction_on generalizing s bytes with
    | _ _ shorter =>
      intro read
      rcases exists_item_of_unescape read with ⟨rfl, rfl⟩ | ⟨item, rest, found, rfl, inner, rfl⟩
      · exact ⟨[], rfl, rfl⟩
      · have left : rest.length < (item.text ++ rest).length := by
          rw [List.length_append]
          exact Nat.lt_add_of_pos_left item.length_text_pos
        obtain ⟨items, rfl, rfl⟩ := shorter rest.length (length ▸ left) rfl inner
        exact ⟨item :: items, rfl, rfl⟩
  · rintro ⟨items, rfl, rfl⟩
    induction items with
    | nil => exact unescape_nil
    | cons item items ih =>
      rw [List.flatMap_cons, unescape_append, ih]
      rfl

/-! ## Bytes and cursors -/

/-- Reads the byte that the next two bytes of a text spell, which have to be whole characters, and
tells where to go on. -/
def spelledAt (s : Text) (start : Nat) : Except ValueFault (UInt8 × Nat) :=
  match slice? s start 2 with
  | none => .error .shortEscape
  | some digits =>
    match unsignedBelow? 16 256 digits with
    | some n => .ok (UInt8.ofNat n, start + 2)
    | none => .error .badEscape

/-- Reads the escape whose backslash is at the place `i`. -/
def escapeAt (s : Text) (i : Nat) : Except ValueFault (UInt8 × Nat) :=
  match (utf8 s)[i + 1]? with
  | none => .error .unknownEscape
  | some c =>
    if c = 0x78 ∨ c = 0x58 then spelledAt s (i + 2)
    else if c = 0x5C ∨ c = 0x27 then .ok (c, i + 2)
    else .error .unknownEscape

/-- Reads one byte of what a text stands for, from the place `i` on. -/
def readAt (s : Text) (i : Nat) : Option (Except ValueFault (UInt8 × Nat)) :=
  (utf8 s)[i]?.map fun b => if b ≠ 0x5C then .ok (b, i + 1) else escapeAt s i

theorem utf8Size_backslash : '\\'.utf8Size = 1 := by decide

theorem spelledAt_append (front rest : Text) :
    spelledAt (front ++ rest) (byteLength front) =
      (escapedByte? rest).map fun found =>
        (found.1, byteLength front + (byteLength rest - byteLength found.2)) := by
  rw [spelledAt, slice?_append, escapedByte?_eq]
  cases cut : splitBytes? 2 rest with
  | none => rfl
  | some parts =>
    obtain ⟨digits, behind⟩ := parts
    obtain ⟨rfl, width⟩ := splitBytes?_eq_some_iff.1 cut
    simp only [Option.map_some]
    cases unsignedBelow? 16 256 digits with
    | none => rfl
    | some n => simp [Except.map, width]

theorem escapeAt_append (front rest : Text) :
    escapeAt (front ++ '\\' :: rest) (byteLength front) =
      (escape? rest).map fun found =>
        (found.1, byteLength front + 1 + (byteLength rest - byteLength found.2)) := by
  rw [escapeAt, getElem?_utf8_append]
  cases rest with
  | nil => rfl
  | cons d tail =>
    -- All marks are below 128, so that the first byte of a character tells if it is one of them.
    obtain ⟨b, bytes, encoded, same⟩ := exists_first_byte d
    have first : (utf8 ('\\' :: d :: tail))[1]? = some b := by
      rw [utf8_cons, utf8_cons, encoded]
      rfl
    have letter : (b = 0x78 ∨ b = 0x58) ↔ (d = 'x' ∨ d = 'X') :=
      or_congr (same 'x' (by decide)).symm (same 'X' (by decide)).symm
    have mark : (b = 0x5C ∨ b = 0x27) ↔ (d = '\\' ∨ d = '\'') :=
      or_congr (same '\\' (by decide)).symm (same '\'' (by decide)).symm
    simp only [first, letter, mark, escape?]
    split_ifs with marked known
    · have single : d.utf8Size = 1 := by rcases marked with rfl | rfl <;> decide
      have spelled := spelledAt_append (front ++ ['\\', d]) tail
      simp only [List.append_assoc, List.cons_append, List.nil_append, byteLength_append,
        byteLength_cons, byteLength_nil, utf8Size_backslash, single] at spelled
      rw [spelled]
      cases read : escapedByte? tail with
      | error fault => rfl
      | ok found =>
        obtain ⟨_, _, rfl⟩ := eq_of_escapedByte?_eq_ok read
        simp only [Except.map, byteLength_cons, single]
        congr 2
        omega
    · have ascii : d.toNat < 128 := by rcases known with rfl | rfl <;> decide
      have single : d.utf8Size = 1 := utf8Size_eq_one_iff.2 ascii
      simp [Except.map, single, (same d ascii).1 rfl]
    · rfl

/-- Escapes are cut out of a text as whole characters. -/
theorem exists_escape_of_escapeAt (found : (utf8 s)[i]? = some 0x5C)
    (read : escapeAt s i = .ok (b, next)) :
    ∃ (front : Text) (escape : Escape) (behind : Text),
      s = front ++ '\\' :: (escape.text ++ behind) ∧ byteLength front = i ∧
        next = i + 1 + byteLength escape.text ∧ b = escape.byte := by
  obtain ⟨front, c, rest, rfl, rfl, code⟩ := exists_char_of_ascii found (by decide)
  obtain rfl : c = '\\' := Char.toNat_inj.1 code
  rw [escapeAt_append] at read
  obtain ⟨⟨b, behind⟩, escaped, same⟩ := map_eq_ok.1 read
  obtain ⟨escape, rfl, rfl⟩ := escape?_eq_ok_iff.1 escaped
  cases same
  exact ⟨front, escape, behind, rfl, rfl, by simp, rfl⟩

theorem readAt_eq_none_iff : readAt s i = none ↔ byteLength s ≤ i := by
  rw [readAt, Option.map_eq_none_iff, List.getElem?_eq_none_iff, length_utf8]

/-- The cursor moves on, and not behind the end of the text. -/
theorem readAt_progress (read : readAt s i = some (.ok (b, next))) :
    i < next ∧ next ≤ byteLength s := by
  obtain ⟨first, found, read⟩ := Option.map_eq_some_iff.1 read
  split_ifs at read with plain
  · have inside : i < byteLength s := length_utf8 s ▸ (List.getElem?_eq_some_iff.1 found).1
    cases read
    exact ⟨Nat.lt_succ_self i, inside⟩
  · obtain rfl := not_not.1 plain
    obtain ⟨front, escape, behind, rfl, rfl, rfl, rfl⟩ := exists_escape_of_escapeAt found read
    simp only [byteLength_append, byteLength_cons, utf8Size_backslash]
    omega

/-- The bytes that a text stands for from the place `i` on. -/
def unescapeFrom (s : Text) (i : Nat) : Except ValueFault Bytes :=
  match _h : readAt s i with
  | none => .ok []
  | some (.error fault) => .error fault
  | some (.ok (b, next)) => (unescapeFrom s next).map (b :: ·)
termination_by byteLength s - i
decreasing_by
  have := readAt_progress _h
  omega

theorem unescapeFrom_end (ended : byteLength s ≤ i) : unescapeFrom s i = .ok [] := by
  rw [unescapeFrom.eq_def]
  split <;> rename_i read <;> rw [readAt_eq_none_iff.2 ended] at read <;> cases read

theorem unescapeFrom_step {read : Except ValueFault (UInt8 × Nat)}
    (found : readAt s i = some read) :
    unescapeFrom s i = read >>= fun one => (unescapeFrom s one.2).map (one.1 :: ·) := by
  rw [unescapeFrom.eq_def]
  split <;> rename_i other <;> rw [found] at other <;> cases other <;> rfl

/-- Bytes other than the backslash are passed over one by one. -/
theorem unescapeFrom_run (run : Bytes) (plain : ∀ b ∈ run, b ≠ 0x5C)
    (here : ∀ k < run.length, (utf8 s)[i + k]? = run[k]?) :
    unescapeFrom s i = (unescapeFrom s (i + run.length)).map (run ++ ·) := by
  induction run generalizing i with
  | nil => cases unescapeFrom s i <;> rfl
  | cons b run ih =>
    have first : readAt s i = some (.ok (b, i + 1)) := by
      have found : (utf8 s)[i]? = some b := here 0 (Nat.succ_pos _)
      rw [readAt, found]
      exact congrArg some (if_pos (plain b List.mem_cons_self))
    have later := @ih (i + 1) (fun b member => plain b (List.mem_cons_of_mem _ member))
      fun k small => by
        rw [Nat.add_assoc, Nat.add_comm 1 k]
        exact here (k + 1) (Nat.succ_lt_succ small)
    have place : i + 1 + run.length = i + (b :: run).length := by
      rw [List.length_cons, Nat.add_assoc, Nat.add_comm 1]
    calc unescapeFrom s i
        = (unescapeFrom s (i + 1)).map (b :: ·) := unescapeFrom_step first
      _ = (unescapeFrom s (i + (b :: run).length)).map (b :: run ++ ·) := by
          rw [later, place]
          cases unescapeFrom s (i + (b :: run).length) <;> rfl

theorem unescapeFrom_plain {c : Char} (other : c ≠ '\\') (front rest : Text) :
    unescapeFrom (front ++ c :: rest) (byteLength front) =
      (unescapeFrom (front ++ c :: rest) (byteLength front + c.utf8Size)).map
        (String.utf8EncodeChar c ++ ·) := by
  -- The byte of a backslash is in no other character.
  have plain : ∀ b ∈ String.utf8EncodeChar c, b ≠ 0x5C := by
    rintro b member rfl
    exact other ((mem_utf8EncodeChar_iff (by decide)).1 member)
  rw [unescapeFrom_run _ plain fun k small => ?_, String.length_utf8EncodeChar]
  rw [getElem?_utf8_append, utf8_cons, List.getElem?_append_left small]

theorem unescapeFrom_backslash (front rest : Text) :
    unescapeFrom (front ++ '\\' :: rest) (byteLength front) =
      escapeAt (front ++ '\\' :: rest) (byteLength front) >>= fun one =>
        (unescapeFrom (front ++ '\\' :: rest) one.2).map (one.1 :: ·) := by
  have found : (utf8 (front ++ '\\' :: rest))[byteLength front]? = some 0x5C :=
    getElem?_utf8_append front ('\\' :: rest) 0
  refine unescapeFrom_step ?_
  rw [readAt, found]
  rfl

/-- The cursor reads what the characters behind it stand for. -/
theorem unescapeFrom_append (front rest : Text) :
    unescapeFrom (front ++ rest) (byteLength front) = unescape rest := by
  -- Every item takes the cursor to a text that is shorter.
  induction length : rest.length using Nat.strong_induction_on generalizing front rest with
  | _ _ shorter =>
    subst length
    have later : ∀ item behind : Text, behind.length < rest.length →
        unescapeFrom (front ++ (item ++ behind)) (byteLength front + byteLength item) =
          unescape behind := by
      intro item behind less
      rw [← List.append_assoc, ← byteLength_append]
      exact shorter behind.length less (front ++ item) behind rfl
    cases rest with
    | nil => rw [List.append_nil, unescapeFrom_end (Nat.le_refl _), unescape_nil]
    | cons c rest =>
      by_cases other : c ≠ '\\'
      · rw [unescapeFrom_plain other, unescape_plain other]
        exact congrArg _ (later [c] rest (Nat.lt_succ_self _))
      · obtain rfl := not_not.1 other
        rw [unescapeFrom_backslash, escapeAt_append, unescape_backslash]
        cases read : escape? rest with
        | error fault => rfl
        | ok found =>
          obtain ⟨b, behind⟩ := found
          obtain ⟨escape, rfl, rfl⟩ := escape?_eq_ok_iff.1 read
          have place : byteLength front + 1 +
                (byteLength (escape.text ++ behind) - byteLength behind) =
              byteLength front + byteLength ('\\' :: escape.text) := by
            simp only [byteLength_append, byteLength_cons, utf8Size_backslash]
            omega
          have less : behind.length < ('\\' :: (escape.text ++ behind)).length := by
            simp only [List.length_cons, List.length_append]
            omega
          have inner := later ('\\' :: escape.text) behind less
          rw [← place] at inner
          exact congrArg (Except.map (escape.byte :: ·)) inner

/-! ## The text between the quotes -/

/-- Whether a text is what is left of another one without the blanks around it. -/
def Trims (s t : Text) : Prop :=
  (∃ front back, s = front ++ t ++ back ∧ (∀ c ∈ front, isBlank c = true) ∧
    ∀ c ∈ back, isBlank c = true) ∧
  (∀ c, t.head? = some c → isBlank c = false) ∧ ∀ c, t.getLast? = some c → isBlank c = false

theorem trim_eq_iff : trim s = rest ↔ Trims s rest := by
  constructor
  · rintro rfl
    exact ⟨exists_around s, solid_trim s⟩
  · rintro ⟨⟨front, back, rfl, blankFront, blankBack⟩, first, last⟩
    rw [trim_around blankFront blankBack, trim_eq_self first last]

/-- Whether a text is what is left of another one without the marks around it, which is all of it if
they do not stand there. -/
def Without (before after s t : Text) : Prop :=
  s = before ++ t ++ after ∨ (s = t ∧ ∀ inner, s ≠ before ++ inner ++ after)

theorem getD_eq_iff_without {before after : Text} {found : Option Text}
    (finds : ∀ inner, found = some inner ↔ s = before ++ inner ++ after) :
    found.getD s = rest ↔ Without before after s rest := by
  rw [Option.getD_eq_iff, Without, finds, Option.eq_none_iff_forall_ne_some, and_comm]
  simp only [Ne, finds]

/-- Whether a text is what the parameter of a literal has between its quotes: blanks around it are
taken off, then an opening parenthesis, a closing one, blanks, and quotes if there are two. -/
def Encloses (params body : Text) : Prop :=
  ∃ outer opened closed inner, Trims params outer ∧ Without ['('] [] outer opened ∧
    Without [] [')'] opened closed ∧ Trims closed inner ∧ Without ['\''] ['\''] inner body

theorem unquote_eq_iff : unquote s = body ↔ Without ['\''] ['\''] s body := by
  refine getD_eq_iff_without fun inner => ?_
  simp only [Option.bind_eq_some_iff, stripStart?_eq_some_iff, stripEnd?_eq_some_iff]
  constructor
  · rintro ⟨_, rfl, rfl⟩
    exact (List.append_assoc _ _ _).symm
  · rintro rfl
    exact ⟨_, List.append_assoc _ _ _, rfl⟩

theorem unquote_stripParens_eq_iff :
    unquote (stripParens params) = body ↔ Encloses params body := by
  have opening : ∀ {s t : Text}, (stripStart? ['('] s).getD s = t ↔ Without ['('] [] s t :=
    getD_eq_iff_without fun inner => by rw [stripStart?_eq_some_iff, List.append_nil]
  have closing : ∀ {s t : Text}, (stripEnd? [')'] s).getD s = t ↔ Without [] [')'] s t :=
    getD_eq_iff_without fun inner => by rw [stripEnd?_eq_some_iff, List.nil_append]
  simp only [Encloses, ← trim_eq_iff, ← opening, ← closing, ← unquote_eq_iff, stripParens]
  simp

theorem parse_eq_ok_iff : parse params = .ok bytes ↔
    ∃ items : List Item, unquote (stripParens params) = items.flatMap Item.text ∧
      bytes = items.flatMap Item.bytes := by
  rw [parse, mapError_eq_ok, unescape_eq_ok_iff]

/-! ## Lengths -/

theorem Trims.byteLength_le (trims : Trims s rest) : byteLength rest ≤ byteLength s := by
  obtain ⟨⟨front, back, rfl, -⟩, -⟩ := trims
  simp only [byteLength_append]
  omega

theorem Without.byteLength_le {before after : Text} (without : Without before after s rest) :
    byteLength rest ≤ byteLength s := by
  rcases without with rfl | ⟨rfl, -⟩
  · simp only [byteLength_append]
    omega
  · exact Nat.le_refl _

theorem Encloses.byteLength_le (encloses : Encloses params body) :
    byteLength body ≤ byteLength params := by
  obtain ⟨outer, opened, closed, inner, first, opening, closing, second, quotes⟩ := encloses
  exact quotes.byteLength_le.trans <| second.byteLength_le.trans <| closing.byteLength_le.trans <|
    opening.byteLength_le.trans first.byteLength_le

theorem length_flatMap_bytes_le (items : List Item) :
    (items.flatMap Item.bytes).length ≤ byteLength (items.flatMap Item.text) := by
  induction items with
  | nil => exact Nat.le_refl 0
  | cons item items ih =>
    rw [List.flatMap_cons, List.flatMap_cons, List.length_append, byteLength_append]
    exact Nat.add_le_add item.length_bytes_le ih

/-- Literals are read exactly as the rows of items that stand between their quotes.

1. Every parameter has one text between its parentheses and quotes, which may be missing.
2. It is read exactly if this text is a row of items: characters other than the backslash, and
   behind a backslash another one, a quote, or `x` with two digits or with a plus sign and a digit.
   What is read is what the items stand for, one behind the other.
3. This is no longer than the text, and the text is no longer than the parameter.
4. Reading the bytes of the text at a cursor gives the same.
5. The cursor stops at the end of the text only.
6. Before, it moves on with each byte that is read, and not behind the end; an escape that it passes
   is made of whole characters. -/
theorem parse_reads_items :
    (∀ params, ∃! body, Encloses params body) ∧
    (∀ params body bytes, Encloses params body →
      (parse params = .ok bytes ↔
        ∃ items : List Item, body = items.flatMap Item.text ∧ bytes = items.flatMap Item.bytes)) ∧
    (∀ params body bytes, Encloses params body → parse params = .ok bytes →
      bytes.length ≤ byteLength body ∧ byteLength body ≤ byteLength params) ∧
    (∀ s, unescapeFrom s 0 = unescape s) ∧
    (∀ s i, readAt s i = none ↔ byteLength s ≤ i) ∧
    ∀ s i b next, readAt s i = some (.ok (b, next)) →
      i < next ∧ next ≤ byteLength s ∧
        ((utf8 s)[i]? = some 0x5C → ∃ (front : Text) (escape : Escape) (behind : Text),
          s = front ++ '\\' :: (escape.text ++ behind) ∧ byteLength front = i ∧
            next = i + 1 + byteLength escape.text ∧ b = escape.byte) := by
  have reads : ∀ params body bytes, Encloses params body →
      (parse params = .ok bytes ↔
        ∃ items : List Item, body = items.flatMap Item.text ∧
          bytes = items.flatMap Item.bytes) := by
    intro params body bytes encloses
    rw [parse_eq_ok_iff, unquote_stripParens_eq_iff.2 encloses]
  refine ⟨fun params => ?_, reads,
    fun params body bytes encloses read => ⟨?_, encloses.byteLength_le⟩,
    unescapeFrom_append [], fun s i => readAt_eq_none_iff, fun s i b next read => ?_⟩
  · simp only [← unquote_stripParens_eq_iff]
    exact existsUnique_eq'
  · obtain ⟨items, rfl, rfl⟩ := (reads params body bytes encloses).1 read
    exact length_flatMap_bytes_le items
  · obtain ⟨onward, inside⟩ := readAt_progress read
    refine ⟨onward, inside, fun found => exists_escape_of_escapeAt found ?_⟩
    rw [readAt, found] at read
    exact Option.some.inj read

/-- A character of two bytes, a digit behind a plus sign and a backslash in front of the quote. -/
theorem parse_reads_items_overlapping :
    let params : Text := " ('é\\x+f\\\\') ".toList
    let body : Text := "é\\x+f\\\\".toList
    Encloses params body ∧ parse params = .ok [0xC3, 0xA9, 0x0F, 0x5C] ∧
      byteLength body ≤ byteLength params ∧ readAt body 2 = some (.ok (0x0F, 6)) ∧
        6 ≤ byteLength body := by
  intro params body
  obtain ⟨-, reads, lengths, -, -, moves⟩ := parse_reads_items
  have encloses : Encloses params body := unquote_stripParens_eq_iff.1 (by decide)
  have spelled : IsPair '+' 'f' 15 := .inr ⟨rfl, by decide⟩
  have read : parse params = .ok [0xC3, 0xA9, 0x0F, 0x5C] :=
    (reads params body _ encloses).2 ⟨[.plain 'é' (by decide),
      .escaped (.pair 'x' '+' 'f' 15 (.inl rfl) spelled), .escaped (.mark '\\' (.inl rfl))],
      rfl, rfl⟩
  have escape : readAt body 2 = some (.ok (0x0F, 6)) := by decide
  exact ⟨encloses, read, (lengths params body _ encloses read).2, escape,
    (moves body 2 _ 6 escape).2.1⟩

end RawText

end FrameText
