import FrameText.Text.Basic

/-!
# Blank characters

The characters with the Unicode property `White_Space`, and the removal of blanks from the two
ends of a text.
-/

namespace FrameText

namespace Text

/-- The 25 characters with the Unicode property `White_Space`. -/
def isBlank (c : Char) : Bool :=
  let n := c.toNat
  (0x09 ≤ n && n ≤ 0x0D) || n == 0x20 || n == 0x85 || n == 0xA0 || n == 0x1680 ||
    (0x2000 ≤ n && n ≤ 0x200A) || n == 0x2028 || n == 0x2029 || n == 0x202F || n == 0x205F ||
    n == 0x3000

/-- The text without the blanks in front. -/
def trimStart (s : Text) : Text :=
  s.dropWhile isBlank

/-- The text without the blanks at its end. -/
def trimEnd (s : Text) : Text :=
  (s.reverse.dropWhile isBlank).reverse

/-- The text without the blanks at both ends. -/
def trim (s : Text) : Text :=
  trimEnd (trimStart s)

/-- Trimming changes no text that starts and ends with a non-blank character. -/
theorem trim_eq_self {s : Text} (first : ∀ c, s.head? = some c → isBlank c = false)
    (last : ∀ c, s.getLast? = some c → isBlank c = false) : trim s = s := by
  have keep : ∀ {l : Text}, (∀ c, l.head? = some c → isBlank c = false) →
      l.dropWhile isBlank = l := by
    intro l h
    cases l with
    | nil => rfl
    | cons c cs => simp [h c rfl]
  rw [trim, trimStart, keep first, trimEnd, keep (by simpa using last), List.reverse_reverse]

end Text

end FrameText
