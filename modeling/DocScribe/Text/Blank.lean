import DocScribe.Text.Basic

/-!
# `DocScribe.Text.Blank`: blank code points and trimming

Two sets of blanks are in use. Words that people write (identifiers,
paths, flags) are trimmed of every blank, the four information
separators included. Numbers written as text are trimmed of the
White_Space property alone, which leaves the separators out.
-/

set_option autoImplicit false

namespace DocScribe

namespace CodePoint

/-- The White_Space property. -/
def isWhiteSpace (c : CodePoint) : Bool :=
  (0x09 ≤ c.val && c.val ≤ 0x0D) || c.val == 0x20 || c.val == 0x85 || c.val == 0xA0
    || c.val == 0x1680 || (0x2000 ≤ c.val && c.val ≤ 0x200A) || c.val == 0x2028
    || c.val == 0x2029 || c.val == 0x202F || c.val == 0x205F || c.val == 0x3000

/-- White space, or an information separator. -/
def isBlank (c : CodePoint) : Bool :=
  c.isWhiteSpace || (0x1C ≤ c.val && c.val ≤ 0x1F)

/-- A separator is a blank and no white space. -/
example : isBlank ⟨0x1C, by decide⟩ ∧ ¬ isWhiteSpace ⟨0x1C, by decide⟩ := by decide

end CodePoint

namespace Text

/-- Without the blanks at both ends. -/
def trim (t : Text) : Text :=
  t.trimWhile CodePoint.isBlank

/-- Without the blanks at the end. -/
def trimEnd (t : Text) : Text :=
  t.dropEndWhile CodePoint.isBlank

/-- Without the white space at both ends. -/
def trimWhiteSpace (t : Text) : Text :=
  t.trimWhile CodePoint.isWhiteSpace

/-- Whether there is nothing but blanks. -/
def isBlank (t : Text) : Bool :=
  t.all CodePoint.isBlank

end Text

end DocScribe
