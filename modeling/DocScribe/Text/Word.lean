import DocScribe.Text.LetterCase
import DocScribe.Text.WordTable

/-!
# `DocScribe.Text.Word`: words and names

A word is made of letters, digits, figures and low lines. A name is
stricter in what it holds and where: no figures, and no digit or mark
in front.
-/

set_option autoImplicit false

namespace DocScribe.CodePoint

/-- Whether a number lies in one of the ranges, or, for ASCII, satisfies
`plain`. -/
def isOneOf (plain : Bool) (tables : List (List (Nat × Nat))) (c : CodePoint) : Bool :=
  if c.val < 0x80 then plain else tables.any fun ranges => CaseTable.inRanges ranges c.val

/-- Whether the code point belongs to words. -/
def isInWord (c : CodePoint) : Bool :=
  c.isOneOf (c.isAsciiLetter || c.isDigit || c == '_')
    [Text.WordTable.letterRanges, Text.WordTable.digitRanges, Text.WordTable.figureRanges]

/-- Whether a name may begin with the code point. -/
def startsName (c : CodePoint) : Bool :=
  c.isOneOf (c.isAsciiLetter || c == '_') [Text.WordTable.letterRanges, Text.WordTable.signRanges]

/-- Whether a name may go on with the code point. -/
def continuesName (c : CodePoint) : Bool :=
  c.startsName
    || c.isOneOf c.isDigit [Text.WordTable.digitRanges, Text.WordTable.markRanges]

end DocScribe.CodePoint
