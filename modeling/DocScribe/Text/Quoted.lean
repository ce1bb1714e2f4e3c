import DocScribe.Text.Basic
import DocScribe.Text.HiddenTable

/-!
# `DocScribe.Text.Quoted`: a text between quotation marks

Messages show names and values between quotation marks. The mark is
the apostrophe, or the double one for a text that holds apostrophes
and no double mark. A backslash and the chosen mark are escaped, and
what has no visible form is written by its number.
-/

set_option autoImplicit false

namespace DocScribe.Text

/-- `n` in lower-case hexadecimal, with at least `width` digits. -/
def hex (width n : Nat) : Text :=
  padZeros width ((Nat.toDigits 16 n).map CodePoint.ofChar)

/-- Whether a code point has no visible form. -/
def isHidden (c : CodePoint) : Bool :=
  if c.val < 0x7F then c.val < 0x20
  else HiddenTable.hiddenRanges.any fun range => range.1 ≤ c.val && c.val ≤ range.2

/-- One code point between two `mark`s. -/
def quotedChar (mark c : CodePoint) : Text :=
  if c = mark ∨ c = .backslash then [.backslash, c]
  else if c = .lineFeed then "\\n"
  else if c = .carriageReturn then "\\r"
  else if c = '\t' then "\\t"
  else if isHidden c then
    if c.val < 0x100 then "\\x" ++ hex 2 c.val
    else if c.val < 0x10000 then "\\u" ++ hex 4 c.val
    else "\\U" ++ hex 8 c.val
  else [c]

/-- The mark that a text is quoted with. -/
def quoteMark (t : Text) : CodePoint :=
  if t.contains .apostrophe && !t.contains .quoteSign then .quoteSign else .apostrophe

/-- The text between quotation marks. -/
def quoted (t : Text) : Text :=
  quoteMark t :: t.flatMap (quotedChar (quoteMark t)) ++ [quoteMark t]

example : quoted "a'b" = "\"a'b\"" := by decide

end DocScribe.Text
