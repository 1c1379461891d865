import FrameText.Text.Numeral
import FrameText.Text.Visible

/-!
# Quoted text

Text and characters as diagnostics show them: between quotation marks, with short escapes for the
common control characters and the code point in hexadecimal for every character that would not be
visible on its own.
-/

namespace FrameText

namespace Text

/-- A code point as `\u\x7b…\x7d` with its hexadecimal digits. -/
def codePoint (c : Char) : Text :=
  "\\u\x7b".toList ++ hex 1 c.toNat ++ "\x7d".toList

/-- A character inside quotation marks of the form `mark`. -/
def quotedChar (mark c : Char) : Text :=
  if c = '\x00' then "\\0".toList
  else if c = '\t' then "\\t".toList
  else if c = '\r' then "\\r".toList
  else if c = '\n' then "\\n".toList
  else if c = mark ∨ c = '\\' then ['\\', c]
  else if isVisible c then [c]
  else codePoint c

/-- A text between double quotation marks. -/
def quoted (s : Text) : Text :=
  '"' :: s.flatMap (quotedChar '"') ++ ['"']

/-- A character between single quotation marks. -/
def quotedSingle (c : Char) : Text :=
  '\'' :: quotedChar '\'' c ++ ['\'']

end Text

end FrameText
