import FrameText.Token
import FrameText.Bytes

/-!
# Literal bytes

The parameter of a `Raw` layer is a text between single quotes that stands for bytes.

* Writing shows printable ASCII as itself and every other byte as `\xHH`.  The slash, the
  backslash, the quote and the colon are escaped too, so that the text is one layer of one
  description wherever it stands.
* Reading accepts any character for its UTF-8 bytes, and the escapes `\xHH`, `\\` and `\'`.
-/

namespace FrameText

namespace RawText

/-! ## Writing -/

/-- Whether a byte stands for itself: printable ASCII other than slash, backslash, quote, colon. -/
def isPlain (b : UInt8) : Bool :=
  0x20 ≤ b && b ≤ 0x7E && b != 0x2F && b != 0x5C && b != 0x27 && b != 0x3A

/-- A byte in the text of a `Raw` layer. -/
def escapeByte (b : UInt8) : Text :=
  if isPlain b then [Char.ofNat b.toNat] else '\\' :: 'x' :: Text.hex 2 b.toNat

/-- Bytes in the text of a `Raw` layer. -/
def escape (bytes : Bytes) : Text :=
  bytes.flatMap escapeByte

/-! ## Reading -/

/-- The byte that the two characters behind `\x` spell.  They have to be two bytes of text; a plus
sign may stand for the first digit. -/
def escapedByte? : Text → Except ValueFault (UInt8 × Text)
  | [] => .error .shortEscape
  | c :: cs =>
    if c.utf8Size = 2 then
      .error .badEscape
    else
      match cs with
      | [] => .error .shortEscape
      | d :: rest =>
        if c.utf8Size = 1 ∧ d.utf8Size = 1 then
          match Text.unsignedBelow? 16 256 [c, d] with
          | some n => .ok (UInt8.ofNat n, rest)
          | none => .error .badEscape
        else
          .error .shortEscape

/-- An escaped byte takes two characters. -/
theorem eq_of_escapedByte?_eq_ok {s : Text} {b : UInt8} {rest : Text}
    (h : escapedByte? s = .ok (b, rest)) : ∃ c d, s = c :: d :: rest := by
  unfold escapedByte? at h
  split at h
  · cases h
  · rename_i c cs
    split at h
    · cases h
    · split at h
      · cases h
      · rename_i d tail
        split at h
        · split at h
          · cases h
            exact ⟨c, d, rfl⟩
          · cases h
        · cases h

/-- The bytes that a text with escapes stands for. -/
def unescape : Text → Except ValueFault Bytes
  | [] => .ok []
  | c :: rest =>
    if c = '\\' then
      match rest with
      | [] => .error .unknownEscape
      | d :: tail =>
        if d = 'x' ∨ d = 'X' then
          match _h : escapedByte? tail with
          | .error fault => .error fault
          | .ok (b, behind) => (unescape behind).map (b :: ·)
        else if d = '\\' ∨ d = '\'' then
          (unescape tail).map (UInt8.ofNat d.toNat :: ·)
        else
          .error .unknownEscape
    else
      (unescape rest).map (String.utf8EncodeChar c ++ ·)
termination_by s => s.length
decreasing_by
  · obtain ⟨_, _, rfl⟩ := eq_of_escapedByte?_eq_ok _h
    simp only [List.length_cons]
    omega
  all_goals simp only [List.length_cons]; omega

/-- The text between a pair of single quotes; text that is not quoted on both ends stays. -/
def unquote (s : Text) : Text :=
  ((Text.stripStart? ['\''] s).bind (Text.stripEnd? ['\''])).getD s

/-- The bytes of a `Raw` layer with these parameters. -/
def parse (params : Text) : Except Error Bytes :=
  let inner := unquote (stripParens params)
  (unescape inner).mapError (.invalidValue "Raw".toList inner)

end RawText

end FrameText
