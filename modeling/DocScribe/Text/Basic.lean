/-!
# `DocScribe.Text.Basic`: texts as lists of code points

A text is a list of Unicode code points. Surrogates are code points
too: a reply may hold a lone one, and every later stage (JSON text,
documents, files) has to say what becomes of it. `String` cannot hold
one, so the library has a text type of its own; string literals
coerce into it.

The module also holds the cutting and joining operations that more
than one later module needs.
-/

set_option autoImplicit false

namespace DocScribe

/-- A Unicode code point: any number below `0x110000`, surrogates
included. -/
structure CodePoint where
  val : Nat
  val_lt : val < 0x110000
deriving DecidableEq

namespace CodePoint

/-- The code point of a character. -/
def ofChar (c : Char) : CodePoint :=
  ⟨c.toNat, by
    have h := c.valid
    simp only [UInt32.isValidChar, Nat.isValidChar] at h
    show c.val.toNat < 0x110000
    omega⟩

instance : Coe Char CodePoint := ⟨ofChar⟩

instance : Inhabited CodePoint := ⟨'?'⟩

instance : Repr CodePoint := ⟨fun c _ => repr c.val⟩

/-- The line feed, which ends a line. -/
abbrev lineFeed : CodePoint := ⟨0x0A, by decide⟩

/-- The carriage return, which some files put before a line feed. -/
abbrev carriageReturn : CodePoint := ⟨0x0D, by decide⟩

/-- The control characters that have a letter of their own in
escapes: bell, backspace, vertical tab and form feed. -/
abbrev bell : CodePoint := ⟨0x07, by decide⟩

@[inherit_doc bell]
abbrev backspace : CodePoint := ⟨0x08, by decide⟩

@[inherit_doc bell]
abbrev verticalTab : CodePoint := ⟨0x0B, by decide⟩

@[inherit_doc bell]
abbrev formFeed : CodePoint := ⟨0x0C, by decide⟩

/-- The double quotation mark. -/
abbrev quoteSign : CodePoint := ⟨0x22, by decide⟩

/-- The apostrophe, which also quotes. -/
abbrev apostrophe : CodePoint := ⟨0x27, by decide⟩

/-- The backslash, which begins an escape. -/
abbrev backslash : CodePoint := ⟨0x5C, by decide⟩

/-- The code point numbered `n`, for an `n` that is one. -/
def ofNat? (n : Nat) : Option CodePoint :=
  if h : n < 0x110000 then some ⟨n, h⟩ else none

/-- The mark that some texts begin with. -/
abbrev byteOrderMark : CodePoint := ⟨0xFEFF, by decide⟩

/-- The mark in the place of what cannot be shown. -/
abbrev replacementMark : CodePoint := ⟨0xFFFD, by decide⟩

/-- The code point numbered `n`, or the replacement mark beyond the
last one. -/
def ofNatD (n : Nat) : CodePoint :=
  (ofNat? n).getD replacementMark

/-- Code points that stand for no character on their own. -/
def isSurrogate (c : CodePoint) : Bool :=
  0xD800 ≤ c.val && c.val ≤ 0xDFFF

/-- The first half of a pair. -/
def isHighSurrogate (c : CodePoint) : Bool :=
  0xD800 ≤ c.val && c.val ≤ 0xDBFF

/-- The second half of a pair. -/
def isLowSurrogate (c : CodePoint) : Bool :=
  0xDC00 ≤ c.val && c.val ≤ 0xDFFF

/-- The ten ASCII digits. -/
def isDigit (c : CodePoint) : Bool :=
  0x30 ≤ c.val && c.val ≤ 0x39

/-- The value of an ASCII digit. -/
def digitValue (c : CodePoint) : Nat :=
  c.val - 0x30

/-- The value of an ASCII hexadecimal digit of either case. -/
def hexValue? (c : CodePoint) : Option Nat :=
  if c.isDigit then some c.digitValue
  else if 0x41 ≤ c.val && c.val ≤ 0x46 then some (c.val - 0x41 + 10)
  else if 0x61 ≤ c.val && c.val ≤ 0x66 then some (c.val - 0x61 + 10)
  else none

/-- The ASCII letters. -/
def isAsciiLetter (c : CodePoint) : Bool :=
  (0x41 ≤ c.val && c.val ≤ 0x5A) || (0x61 ≤ c.val && c.val ≤ 0x7A)

end CodePoint

/-- The sum of some counts. -/
def total (counts : List Nat) : Nat :=
  counts.foldr (fun n rest => n + rest) 0

/-- A text is a list of code points. -/
abbrev Text := List CodePoint

namespace Text

/-- The text of a string. -/
def ofString (s : String) : Text :=
  s.toList.map CodePoint.ofChar

instance : Coe String Text := ⟨ofString⟩

/-- The text of a string that is given by its characters. -/
theorem ofString_ofList (chars : List Char) :
    ofString (String.ofList chars) = chars.map CodePoint.ofChar := by
  rw [ofString, String.toList_ofList]

/-- The string of a text; a surrogate becomes the replacement mark. -/
def toString (t : Text) : String :=
  String.ofList (t.map fun c => if c.isSurrogate then Char.ofNat 0xFFFD else Char.ofNat c.val)

/-- The decimal text of a natural number. -/
def ofNat (n : Nat) : Text :=
  (Nat.toDigits 10 n).map CodePoint.ofChar

/-- The decimal text of an integer. -/
def ofInt : Int → Text
  | .ofNat n => ofNat n
  | .negSucc n => CodePoint.ofChar '-' :: ofNat (n + 1)

/-- The number that a run of ASCII digits spells. -/
def digitsValue (digits : Text) : Nat :=
  digits.foldl (fun n c => n * 10 + c.digitValue) 0

/-- Fill up with zeros on the left to a least width. -/
def padZeros (width : Nat) (t : Text) : Text :=
  List.replicate (width - t.length) (CodePoint.ofChar '0') ++ t

/-- The pieces between the occurrences of a separator: one more than
there are separators. -/
def splitOn (sep : CodePoint) : Text → List Text
  | [] => [[]]
  | c :: rest =>
    if c = sep then [] :: splitOn sep rest
    else
      match splitOn sep rest with
      | [] => [[c]]
      | piece :: pieces => (c :: piece) :: pieces

/-- Pieces joined by a separator. -/
def joinWith (sep : Text) : List Text → Text
  | [] => []
  | [piece] => piece
  | piece :: next :: pieces => piece ++ sep ++ joinWith sep (next :: pieces)

/-- Whether a text occurs in another. -/
def occursIn (needle : Text) : Text → Bool
  | [] => needle.isEmpty
  | c :: rest => needle.isPrefixOf (c :: rest) || occursIn needle rest

/-- What follows a given beginning, if the text has it. -/
def after? (beginning : Text) (t : Text) : Option Text :=
  if beginning.isPrefixOf t then some (t.drop beginning.length) else none

/-- The part before the first occurrence of a code point, and the
part after it if there is one. -/
def cutAt (c : CodePoint) : Text → Text × Option Text
  | [] => ([], none)
  | d :: rest =>
    if d = c then ([], some rest)
    else (d :: (cutAt c rest).1, (cutAt c rest).2)

/-- Without the longest tail of code points that satisfy `p`. -/
def dropEndWhile (p : CodePoint → Bool) : Text → Text
  | [] => []
  | c :: rest =>
    match dropEndWhile p rest with
    | [] => if p c then [] else [c]
    | kept => c :: kept

/-- Without the longest beginning and the longest tail of code points
that satisfy `p`. -/
def trimWhile (p : CodePoint → Bool) (t : Text) : Text :=
  dropEndWhile p (t.dropWhile p)

/-- Line ends are written `\n`: a carriage return counts as one, and
a carriage return with a line feed as a single one. -/
def unifyNewlines : Text → Text
  | [] => []
  | c :: rest =>
    if c = .carriageReturn then
      match rest with
      | [] => [.lineFeed]
      | d :: rest' =>
        if d = .lineFeed then .lineFeed :: unifyNewlines rest'
        else .lineFeed :: unifyNewlines (d :: rest')
    else c :: unifyNewlines rest

/-- Order by code point, the shorter first when one begins the
other. -/
def lt : Text → Text → Bool
  | [], [] => false
  | [], _ :: _ => true
  | _ :: _, [] => false
  | a :: s, b :: t => a.val < b.val || (a.val == b.val && lt s t)

/-- The order that `lt` is strict in. -/
def le (s t : Text) : Bool :=
  !lt t s

end Text

end DocScribe
