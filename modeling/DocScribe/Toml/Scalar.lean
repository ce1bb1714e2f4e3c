import DocScribe.Document.Timestamp
import DocScribe.Json.Reader
import DocScribe.Toml.Basic

/-!
# `DocScribe.Toml.Scalar`: strings, numbers and moments in files

Every reader takes something from the front of a text and returns
what follows. What is no value is malformed, and two faults are told
apart from that: an integer with more digits than can be read, and
containers that nest deeper than can be read.
-/

set_option autoImplicit false

namespace DocScribe.Toml

/-- Why a text is no configuration. -/
inductive ReadError where
  | malformed
  | integerTooLong (digits : Nat)
  | nestingTooDeep
deriving DecidableEq

/-- Something that was read and the text behind it. -/
abbrev Reading (α : Type) := Except ReadError (α × Text)

/-- What has to be there. -/
def require {α : Type} : Option α → Except ReadError α
  | some found => .ok found
  | none => .error .malformed

/-- The blanks within a line. -/
def isGap (c : CodePoint) : Bool :=
  c.val == 0x20 || c.val == 0x09

/-- What follows the blanks within a line. -/
def skipGap (t : Text) : Text :=
  t.dropWhile isGap

/-- What follows blanks and line ends. -/
def skipLines (t : Text) : Text :=
  t.dropWhile fun c => isGap c || c == .lineFeed

/-- Control characters, which stand nowhere but in line ends and as
tabulators. -/
def isControl (c : CodePoint) : Bool :=
  (c.val < 0x20 && c.val != 0x09) || c.val == 0x7F

/-- Code points that a string of one line, or of several, may not
hold as they are. -/
def isForbidden (lines : Bool) (c : CodePoint) : Bool :=
  isControl c && !(lines && c == .lineFeed)

/-! ### Strings -/

/-- Three quotation marks. -/
def triple (mark : CodePoint) : Text := [mark, mark, mark]

/-- The literal string up to its closing mark. -/
def literal? : Text → Option (Text × Text)
  | [] => none
  | c :: rest =>
    if c = .apostrophe then some ([], rest)
    else if isForbidden false c then none
    else (literal? rest).map fun found => (c :: found.1, found.2)

/-- The literal string of several lines up to its closing marks. -/
def literalLines? : Text → Option (Text × Text)
  | [] => none
  | c :: rest =>
    if (triple .apostrophe).isPrefixOf (c :: rest) then some ([], (c :: rest).drop 3)
    else if isForbidden true c then none
    else (literalLines? rest).map fun found => (c :: found.1, found.2)

/-- The number that hexadecimal digits spell. -/
def hexValue? (digits : Text) : Option Nat :=
  digits.foldl (fun n c => do pure ((← n) * 16 + (← c.hexValue?))) (some 0)

/-- The code point that so many hexadecimal digits name. -/
def hexPoint? (count : Nat) (t : Text) : Option (Text × Text) := do
  let digits := t.take count
  if digits.length ≠ count then none
  let c ← CodePoint.ofNat? (← hexValue? digits)
  if c.isSurrogate then none
  pure ([c], t.drop count)

/-- The code point that a one-letter escape stands for. -/
def shortEscape? (c : CodePoint) : Option CodePoint :=
  if c = '/' then none else Json.shortEscape? c

/-- What a backslash stands for together with what follows it. At the
end of a line it takes the line end and the blanks that follow with
it. -/
def escape? (lines : Bool) : Text → Option (Text × Text)
  | [] => none
  | c :: rest =>
    if lines ∧ c = .lineFeed then some ([], skipLines rest)
    else if lines ∧ isGap c then
      match skipGap rest with
      | [] => some ([], [])
      | d :: after => if d = .lineFeed then some ([], skipLines after) else none
    else if c = 'u' then hexPoint? 4 rest
    else if c = 'U' then hexPoint? 8 rest
    else (shortEscape? c).map fun d => ([d], rest)

/-- The basic string up to its closing marks, `fuel` code points
far. -/
def basic? (lines : Bool) : Nat → Text → Option (Text × Text)
  | 0, _ => none
  | _, [] => none
  | fuel + 1, c :: rest =>
    if c = .quoteSign ∧ !lines then some ([], rest)
    else if lines ∧ (triple .quoteSign).isPrefixOf (c :: rest) then some ([], (c :: rest).drop 3)
    else if c = .backslash then
      match escape? lines rest with
      | none => none
      | some (points, after) =>
        (basic? lines fuel after).map fun found => (points ++ found.1, found.2)
    else if isForbidden lines c then none
    else (basic? lines fuel rest).map fun found => (c :: found.1, found.2)

/-- Up to two more marks right behind the closing ones belong to the
string. -/
def extraMarks (mark : CodePoint) (found : Text × Text) : Text × Text :=
  match found.2 with
  | a :: b :: rest =>
    if a ≠ mark then found
    else if b ≠ mark then (found.1 ++ [mark], b :: rest)
    else (found.1 ++ [mark, mark], rest)
  | [a] => if a = mark then (found.1 ++ [mark], []) else found
  | [] => found

/-- Without a line end in front. -/
def withoutFirstLineEnd : Text → Text
  | [] => []
  | c :: rest => if c = .lineFeed then rest else c :: rest

/-- The string of one line at the front. -/
def oneLine? : Text → Option (Text × Text)
  | [] => none
  | c :: rest =>
    if c = .apostrophe then literal? rest
    else if c = .quoteSign then basic? false (rest.length + 1) rest
    else none

/-- The string of one or several lines at the front. -/
def string? (t : Text) : Option (Text × Text) :=
  if (triple .quoteSign).isPrefixOf t then
    let body := withoutFirstLineEnd (t.drop 3)
    (basic? true (body.length + 1) body).map (extraMarks .quoteSign)
  else if (triple .apostrophe).isPrefixOf t then
    (literalLines? (withoutFirstLineEnd (t.drop 3))).map (extraMarks .apostrophe)
  else oneLine? t

/-! ### Numbers -/

/-- Further digits, each with at most one low line in front. -/
def moreDigits (isDigit : CodePoint → Bool) : Text → Text × Text
  | [] => ([], [])
  | c :: rest =>
    if isDigit c then
      let found := moreDigits isDigit rest
      (c :: found.1, found.2)
    else if c = '_' then
      match rest with
      | d :: _ => if isDigit d then moreDigits isDigit rest else ([], c :: rest)
      | [] => ([], [c])
    else ([], c :: rest)

/-- One or more digits with single low lines between them. -/
def digits? (isDigit : CodePoint → Bool) : Text → Option (Text × Text)
  | [] => none
  | c :: rest =>
    if isDigit c then
      let found := moreDigits isDigit rest
      some (c :: found.1, found.2)
    else none

/-- The value of digits to a base. -/
def valueOf (base : Nat) (digits : Text) : Nat :=
  digits.foldl (fun n c => n * base + c.hexValue?.getD 0) 0

/-- Whether a code point is a digit to a base. -/
def isDigitOf (base : Nat) (c : CodePoint) : Bool :=
  match c.hexValue? with
  | some n => n < base
  | none => false

/-- An integer written to another base. -/
def based? : Text → Option (Nat × Text)
  | a :: b :: rest =>
    let base? : Option Nat :=
      if b = 'x' then some 16 else if b = 'b' then some 2 else if b = 'o' then some 8 else none
    if a = '0' then
      match base? with
      | some base =>
        (digits? (isDigitOf base) rest).map fun found => (valueOf base found.1, found.2)
      | none => none
    else none
  | _ => none

/-- The whole part of a number: a zero, or digits that begin with
another digit. -/
def whole? (t : Text) : Option (Text × Text) :=
  match t with
  | [] => none
  | c :: rest => if c = '0' then some ([c], rest) else digits? CodePoint.isDigit t

/-- The digits of a fraction, if a point and a digit are next. -/
def fraction (t : Text) : Option Text × Text :=
  match t with
  | [] => (none, t)
  | c :: rest =>
    if c = '.' then
      match digits? CodePoint.isDigit rest with
      | some (digits, after) => (some digits, after)
      | none => (none, t)
    else (none, t)

/-- The exponent, if the mark and a digit are next. -/
def exponent (t : Text) : Option Int × Text :=
  match t with
  | [] => (none, t)
  | c :: rest =>
    if c = 'e' ∨ c = 'E' then
      let (negative, behind) := Json.readSign rest
      match digits? CodePoint.isDigit behind with
      | some (digits, after) =>
        let n : Int := Text.digitsValue digits
        (some (if negative then -n else n), after)
      | none => (none, t)
    else (none, t)

/-- The number at the front, if there is one. -/
def number? (t : Text) : Option (Reading Toml) :=
  -- An integer to another base has no sign, and takes precedence over the zero it begins with.
  match based? t with
  | some (n, rest) => some (.ok (.int n, rest))
  | none =>
    let (negative, body) := Json.readSign t
    match whole? body with
    | none => none
    | some (whole, rest) =>
      let (digits, rest') := fraction rest
      let (power, rest'') := exponent rest'
      -- The digit limit is one of integers in base ten.
      if digits.isNone && power.isNone then
        if Json.digitLimit < whole.length then some (.error (.integerTooLong whole.length))
        else
          let n : Int := Text.digitsValue whole
          some (.ok (.int (if negative then -n else n), rest''))
      else
        let fractionDigits := digits.getD []
        some (.ok (.float (Double.ofDecimal negative (Text.digitsValue (whole ++ fractionDigits))
          (power.getD 0 - fractionDigits.length)), rest''))

/-- The words that are numbers. -/
def specialNumbers : List (Text × Double) :=
  [("inf", .infinite false), ("nan", .nan), ("-inf", .infinite true), ("+inf", .infinite false),
    ("-nan", .nan), ("+nan", .nan)]

/-- One of the words that are numbers at the front. -/
def specialNumber? (t : Text) : Option (Toml × Text) :=
  specialNumbers.findSome? fun entry =>
    (Text.after? entry.1 t).map fun rest => (.float entry.2, rest)

/-! ### Moments -/

/-- Exactly so many digits, and their value. -/
def count? (count : Nat) (t : Text) : Option (Nat × Text) :=
  let digits := t.take count
  if digits.length = count ∧ digits.all CodePoint.isDigit then
    some (Text.digitsValue digits, t.drop count)
  else none

/-- What follows a given code point at the front. -/
def after? (c : CodePoint) (t : Text) : Option Text :=
  Text.after? [c] t

/-- Two digits that spell a number between two bounds. -/
def between? (low high : Nat) (t : Text) : Option (Nat × Text) := do
  let (n, rest) ← count? 2 t
  if low ≤ n ∧ n ≤ high then some (n, rest) else none

/-- The fraction of a second in microseconds; what is finer is cut
off. -/
def microseconds (t : Text) : Nat × Text :=
  match after? '.' t with
  | none => (0, t)
  | some rest =>
    let digits := rest.takeWhile CodePoint.isDigit
    if digits.isEmpty then (0, t)
    else
      (Text.digitsValue ((digits ++ List.replicate 6 (CodePoint.ofChar '0')).take 6),
        rest.dropWhile CodePoint.isDigit)

/-- A time of day. -/
structure Clock where
  hour : Nat
  minute : Nat
  second : Nat
  microsecond : Nat
deriving DecidableEq, Repr

/-- `n` in at least two digits. -/
def two (n : Nat) : Text :=
  Text.padZeros 2 (Text.ofNat n)

/-- A time of day as it is shown; nothing is shown of a fraction that
is none. -/
def Clock.toText (c : Clock) : Text :=
  two c.hour ++ ":" ++ two c.minute ++ ":" ++ two c.second
    ++ (if c.microsecond = 0 then []
      else CodePoint.ofChar '.' :: Text.padZeros 6 (Text.ofNat c.microsecond))

/-- The time of day at the front. -/
def time? (t : Text) : Option (Clock × Text) := do
  let (hour, rest) ← between? 0 23 t
  let (minute, rest) ← between? 0 59 (← after? ':' rest)
  let (second, rest) ← between? 0 59 (← after? ':' rest)
  let (microsecond, rest) := microseconds rest
  pure (⟨hour, minute, second, microsecond⟩, rest)

/-- The offset behind a time of day, in minutes east of universal
time. -/
def offset (t : Text) : Option Int × Text :=
  let signed : Option (Int × Text) :=
    match t with
    | c :: rest =>
      if c = '+' ∨ c = '-' then do
        let (hour, rest) ← between? 0 23 rest
        let (minute, rest) ← between? 0 59 (← after? ':' rest)
        let minutes : Int := (hour * 60 + minute : Nat)
        pure (if c = '-' then -minutes else minutes, rest)
      else if c = 'Z' ∨ c = 'z' then some (0, rest)
      else none
    | [] => none
  match signed with
  | some (minutes, rest) => (some minutes, rest)
  | none => (none, t)

/-- An offset as it is shown. -/
def offsetText (minutes : Int) : Text :=
  (if minutes < 0 then "-" else "+") ++ two (minutes.natAbs / 60) ++ ":"
    ++ two (minutes.natAbs % 60)

/-- A day of the calendar: year, month and day of the month. -/
structure Day where
  year : Nat
  month : Nat
  day : Nat
deriving DecidableEq, Repr

/-- The day at the front, which need not be one of the calendar. -/
def day? (t : Text) : Option (Day × Text) := do
  let (year, rest) ← count? 4 t
  let (month, rest) ← between? 1 12 (← after? '-' rest)
  let (day, rest) ← between? 1 31 (← after? '-' rest)
  pure (⟨year, month, day⟩, rest)

/-- Whether there is such a day. -/
def Day.isOnCalendar (d : Day) : Bool :=
  1 ≤ d.year && d.day ≤ (Calendar.monthLengths d.year)[d.month - 1]?.getD 0

def Day.toText (d : Day) : Text :=
  Text.padZeros 4 (Text.ofNat d.year) ++ "-" ++ two d.month ++ "-" ++ two d.day

/-- The microseconds of universal time from the first day of the
calendar to a moment with an offset. -/
def instantOf (d : Day) (c : Clock) (minutes : Int) : Int :=
  (((Calendar.dayNumber d.year d.month d.day * 1440 + c.hour * 60 + c.minute : Nat) : Int)
    - minutes) * 60000000 + (c.second * 1000000 + c.microsecond : Nat)

/-- A day with a time of day and an offset behind it, if they
follow. -/
def dayAndTime (d : Day) (rest : Text) : Toml × Text :=
  let timed : Option (Clock × Text) :=
    match rest with
    | c :: behind => if c = 'T' ∨ c = 't' ∨ c = ' ' then time? behind else none
    | [] => none
  match timed with
  | none => (.moment .date d.toText none, rest)
  | some (clock, after) =>
    let shown := d.toText ++ " " ++ clock.toText
    match offset after with
    | (none, after') => (.moment .both shown none, after')
    | (some minutes, after') =>
      (.moment .both (shown ++ offsetText minutes) (some (instantOf d clock minutes)), after')

/-- The moment at the front, if there is one. -/
def moment? (t : Text) : Option (Reading Toml) :=
  match day? t with
  | some (d, rest) =>
    some (if d.isOnCalendar then .ok (dayAndTime d rest) else .error .malformed)
  | none =>
    (time? t).map fun found => .ok (.moment .time found.1.toText none, found.2)

/-- The value at the front that is no list and no table. -/
def scalar (t : Text) : Reading Toml :=
  match string? t with
  | some (found, rest) => .ok (.text found, rest)
  | none =>
    match Text.after? "true" t, Text.after? "false" t with
    | some rest, _ => .ok (.bool true, rest)
    | none, some rest => .ok (.bool false, rest)
    | none, none =>
      -- A moment begins like a number, and is looked for first.
      match moment? t, number? t, specialNumber? t with
      | some found, _, _ => found
      | none, some found, _ => found
      | none, none, some found => .ok found
      | none, none, none => .error .malformed

end DocScribe.Toml
