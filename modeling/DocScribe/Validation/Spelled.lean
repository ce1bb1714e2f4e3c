import DocScribe.Decimal.Double
import DocScribe.Text.Blank
import DocScribe.Text.LetterCase
import DocScribe.Validation.Issue

/-!
# `DocScribe.Validation.Spelled`: numbers spelled out

A variable holds text, so a number may come as one. Integers and
other numbers are spelled by rules of their own. Both take a sign,
white space around the number, and low lines between the digits of
one that is not plain.

An integer may have zeros in front, low lines among these, and a
fraction of zeros; without these it has a limited length. A number may
be a decimal with an exponent, or one of the words for infinity and
not-a-number.
-/

set_option autoImplicit false

namespace DocScribe.Spelled

/-- A sign in front, if there is one: whether it is a minus, and the
rest. -/
def cutSign : Text → Bool × Text
  | [] => (false, [])
  | c :: rest =>
    if c = '-' then (true, rest) else if c = '+' then (false, rest) else (false, c :: rest)

/-- The number with a sign. -/
def signed (negative : Bool) (n : Nat) : Int :=
  if negative then -(n : Int) else n

/-- Digits with single low lines between them, without these. -/
def joinedDigits? : Text → Option Text
  | [] => none
  | [c] => if c.isDigit then some [c] else none
  | c :: d :: rest =>
    if !c.isDigit then none
    else if d = '_' then
      match rest with
      | [] => none
      | _ :: _ => (joinedDigits? rest).map (c :: ·)
    else (joinedDigits? (d :: rest)).map (c :: ·)

/-- Whether two low lines stand side by side. -/
def hasLowLinePair : Text → Bool
  | a :: b :: rest => (a == '_' && b == '_') || hasLowLinePair (b :: rest)
  | _ => false

/-- A text without its low lines, if it has some, and if these part
other code points one at a time. -/
def withoutLowLines? (t : Text) : Option Text :=
  if !t.contains '_' || t.head? == some (CodePoint.ofChar '_')
      || t.getLast? == some (CodePoint.ofChar '_') || hasLowLinePair t then none
  else some (t.filter (· != '_'))

/-- A text may be a value only if it holds no surrogate. -/
def checked (t : Text) : Except IssueKind Unit :=
  if t.any CodePoint.isSurrogate then .error .notUnicode else .ok ()

/-! ### Integers -/

/-- The most digits that an integer is read from. -/
def integerLimit : Nat := 4300

/-- A digit other than zero. -/
def isLeading (c : CodePoint) : Bool :=
  c.isDigit && c != '0'

/-- Whether a text starts with more digits than an integer may have.
Zeros in front do not count, and hide what follows. -/
def beginsTooLong (t : Text) : Bool :=
  let body := (Text.after? "-" t).getD t
  body.head?.any isLeading && integerLimit < (body.takeWhile CodePoint.isDigit).length

/-- What follows zeros and low lines, `before` being the last of
them: the rest of the number, or that last one if nothing or only a
fraction is left. A minus may stand here too. -/
def afterZeros? (before : CodePoint) : Text → Option Text
  | [] => some [before]
  | c :: rest =>
    if c = '0' ∨ c = '_' then afterZeros? c rest
    else if c = '-' ∨ isLeading c then some (c :: rest)
    else if c = '.' then some (before :: c :: rest)
    else none

/-- An integer without the zeros in front. -/
def withoutZeros? : Text → Option Text
  | [] => none
  | c :: rest =>
    if c = '0' then afterZeros? c rest
    else if isLeading c then some (c :: rest)
    else none

/-- An integer without a fraction of zeros; a bare point stays. -/
def withoutZeroPlaces (t : Text) : Text :=
  match Text.cutAt '.' t with
  | (whole, some (c :: rest)) =>
    if (c :: rest).all (· == CodePoint.ofChar '0') then whole else t
  | _ => t

/-- Digits in their only form: no zero in front of another digit, and
not too many. -/
def plainDigits? (t : Text) : Option Nat :=
  match t with
  | [] => none
  | c :: rest =>
    if t.all CodePoint.isDigit && (c != '0' || rest.isEmpty) && t.length ≤ integerLimit then
      some (Text.digitsValue t)
    else none

/-- An integer in its only form. -/
def plainInteger? (t : Text) : Option Int :=
  match Text.after? "-" t with
  | some digits => (plainDigits? digits).map (signed true)
  | none => (plainDigits? t).map (signed false)

/-- An integer brought towards its only form. -/
def reducedInteger? (t : Text) : Option Text :=
  let (negative, body) := cutSign t.trimWhiteSpace
  (withoutZeros? body).map fun kept =>
    let whole := withoutZeroPlaces kept
    let digits := (withoutLowLines? whole).getD whole
    if negative then '-' :: digits else digits

/-- The integer that a text spells. -/
def integer (t : Text) : Except IssueKind Int := do
  checked t
  -- Looked at before anything is taken away from the text, blanks included.
  if beginsTooLong t then throw .integerTooLong
  match (reducedInteger? t).bind plainInteger? with
  | some n => pure n
  | none => throw .unreadableInteger

/-! ### Other numbers -/

/-- Digits only, or nothing at all. -/
def digits? (t : Text) : Option Text :=
  if t.all CodePoint.isDigit then some t else none

/-- The exponent behind its mark. -/
def exponent? (t : Text) : Option Int :=
  let (negative, body) := cutSign t
  match digits? body with
  | some (c :: rest) => some (signed negative (Text.digitsValue (c :: rest)))
  | _ => none

/-- A decimal without sign: digits around an optional point, at least
one, and an optional exponent. -/
def decimal? (negative : Bool) (t : Text) : Option Double := do
  let (mantissa, exponentText) := Text.cutAt 'e' t
  let (wholeText, fractionText) := Text.cutAt '.' mantissa
  let whole ← digits? wholeText
  let fraction ← digits? (fractionText.getD [])
  let exponent ← match exponentText with
    | none => some 0
    | some e => exponent? e
  if whole.isEmpty && fraction.isEmpty then none
  else
    pure (Double.ofDecimal negative (Text.digitsValue (whole ++ fraction))
      (exponent - fraction.length))

/-- A number without anything around it or between its digits; the
words are in letters of any case. -/
def plainNumber? (t : Text) : Option Double :=
  let (negative, rest) := cutSign t
  let body := rest.toSmall
  if body == ("inf" : Text) || body == ("infinity" : Text) then some (.infinite negative)
  else if body == ("nan" : Text) then some .nan
  else decimal? negative body

/-- The number that a text spells. White space around it and low lines
within do not go together. -/
def number (t : Text) : Except IssueKind Double := do
  checked t
  match plainNumber? t.trimWhiteSpace with
  | some x => pure x
  | none =>
    match (withoutLowLines? t).bind plainNumber? with
    | some x => pure x
    | none => throw .unreadableNumber

example : withoutZeros? "00_7" = some (Text.ofString "7") := by decide
example : withoutZeros? "0-5" = some (Text.ofString "-5") := by decide
example : reducedInteger? " +1_0.0" = some (Text.ofString "10") := by decide
example : (reducedInteger? "-007.00").bind plainInteger? = some (-7) := by decide
example : (reducedInteger? "+-1").bind plainInteger? = none := by decide
example : (reducedInteger? "-_5").bind plainInteger? = none := by decide

end DocScribe.Spelled
