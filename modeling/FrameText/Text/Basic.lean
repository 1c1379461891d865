/-!
# Text — lists of characters

Frame descriptions, names and messages are lists of characters.  This module defines

1. the byte view of text: its UTF-8 bytes and their number;
2. ASCII letter case: `lower`, `sameIgnoringCase`;
3. taking text apart at literals: `stripStart?`, `stripEnd?`, `cut?`;
4. putting it together: `join`.
-/

namespace FrameText

/-- Text is a list of characters. -/
abbrev Text := List Char

/-- Data is a list of bytes. -/
abbrev Bytes := List UInt8

namespace Text

/-! ## The byte view -/

/-- The UTF-8 bytes of a text. -/
def utf8 (s : Text) : Bytes :=
  s.flatMap String.utf8EncodeChar

/-- The number of UTF-8 bytes of a text. -/
def byteLength : Text → Nat
  | [] => 0
  | c :: s => c.utf8Size + byteLength s

@[simp] theorem byteLength_nil : byteLength [] = 0 := rfl

@[simp] theorem byteLength_cons (c : Char) (s : Text) :
    byteLength (c :: s) = c.utf8Size + byteLength s := rfl

@[simp] theorem byteLength_append (s t : Text) :
    byteLength (s ++ t) = byteLength s + byteLength t := by
  induction s with
  | nil => simp
  | cons c s ih => simp [ih, Nat.add_assoc]

theorem length_utf8 (s : Text) : (utf8 s).length = byteLength s := by
  induction s with
  | nil => rfl
  | cons c s ih => simp_all [utf8]

/-! ## Letter case -/

/-- ASCII capitals become small letters, all other characters stay. -/
def lower (s : Text) : Text :=
  s.map Char.toLower

/-- Equality up to the case of ASCII letters. -/
def sameIgnoringCase (s t : Text) : Bool :=
  lower s == lower t

theorem sameIgnoringCase_iff {s t : Text} :
    sameIgnoringCase s t = true ↔ lower s = lower t := by
  simp [sameIgnoringCase]

/-- The codes of small letters lie 32 above those of capitals. -/
theorem toNat_toLower (c : Char) :
    c.toLower.toNat = if 65 ≤ c.toNat ∧ c.toNat ≤ 90 then c.toNat + 32 else c.toNat := by
  have range : c.val ≥ 'A'.val ∧ c.val ≤ 'Z'.val ↔ 65 ≤ c.toNat ∧ c.toNat ≤ 90 := by
    rw [ge_iff_le, UInt32.le_iff_toNat_le, UInt32.le_iff_toNat_le]
    rfl
  by_cases capital : c.val ≥ 'A'.val ∧ c.val ≤ 'Z'.val
  · have value : c.toLower.toNat = (c.val + 32).toNat :=
      congrArg Char.toNat (dif_pos capital)
    have most := (range.1 capital).2
    have shift : (32 : UInt32).toNat = 32 := rfl
    rw [if_pos (range.1 capital), value, UInt32.toNat_add, shift]
    exact Nat.mod_eq_of_lt (Nat.lt_of_le_of_lt (Nat.add_le_add_right most 32) (by decide))
  · have same : c.toLower = c := dif_neg capital
    rw [same, if_neg (mt range.2 capital)]

/-- A small letter has no smaller form. -/
theorem toLower_toLower (c : Char) : c.toLower.toLower = c.toLower := by
  have small : ¬ (65 ≤ c.toLower.toNat ∧ c.toLower.toNat ≤ 90) := by
    rw [toNat_toLower]
    split <;> omega
  have same : c.toLower.toLower.toNat = c.toLower.toNat := by
    rw [toNat_toLower, if_neg small]
  exact Char.ext (UInt32.toNat_inj.1 same)

theorem lower_lower (s : Text) : lower (lower s) = lower s := by
  rw [lower, lower, List.map_map]
  exact List.map_congr_left fun c _ => toLower_toLower c

theorem lower_append (s t : Text) : lower (s ++ t) = lower s ++ lower t :=
  List.map_append

/-! ## Taking text apart -/

/-- What follows `start` in a text that begins with it. -/
def stripStart? : Text → Text → Option Text
  | [], s => some s
  | _ :: _, [] => none
  | p :: ps, c :: cs => if p = c then stripStart? ps cs else none

theorem stripStart?_eq_some_iff {start s rest : Text} :
    stripStart? start s = some rest ↔ s = start ++ rest := by
  induction start generalizing s with
  | nil => simp [stripStart?, eq_comm]
  | cons p ps ih =>
    cases s with
    | nil => simp [stripStart?]
    | cons c cs =>
      by_cases h : p = c
      · simp [stripStart?, h, ih]
      · simp [stripStart?, h, Ne.symm h]

/-- What stands before `ending` in a text that ends with it. -/
def stripEnd? (ending s : Text) : Option Text :=
  (stripStart? ending.reverse s.reverse).map List.reverse

theorem stripEnd?_eq_some_iff {ending s rest : Text} :
    stripEnd? ending s = some rest ↔ s = rest ++ ending := by
  simp only [stripEnd?, Option.map_eq_some_iff, stripStart?_eq_some_iff]
  constructor
  · rintro ⟨front, h, rfl⟩
    simpa using congrArg List.reverse h
  · rintro rfl
    exact ⟨rest.reverse, by simp⟩

/-- The texts before and behind the first place where the non-empty `mark` stands. -/
def cut? (mark : Text) : Text → Option (Text × Text)
  | [] => none
  | c :: cs =>
    match stripStart? mark (c :: cs) with
    | some rest => some ([], rest)
    | none => (cut? mark cs).map fun parts => (c :: parts.1, parts.2)

/-- Cutting loses nothing but the mark. -/
theorem eq_of_cut?_eq_some {mark s before behind : Text}
    (h : cut? mark s = some (before, behind)) : s = before ++ mark ++ behind := by
  induction s generalizing before with
  | nil => simp [cut?] at h
  | cons c cs ih =>
    simp only [cut?] at h
    split at h
    · next rest hr =>
      obtain ⟨rfl, rfl⟩ := by simpa using h
      simpa using stripStart?_eq_some_iff.1 hr
    · obtain ⟨⟨b, r⟩, hc, hp⟩ := Option.map_eq_some_iff.1 h
      simp only [Prod.mk.injEq] at hp
      obtain ⟨rfl, rfl⟩ := hp
      simpa using ih hc

/-! ## Putting text together -/

/-- The texts in order, with `mark` between neighbours. -/
def join (mark : Text) (parts : List Text) : Text :=
  mark.intercalate parts

end Text

end FrameText
