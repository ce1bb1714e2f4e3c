import DocScribe.Json.Basic

/-!
# `DocScribe.Json.Reader`: reading JSON text

The reader takes one value from the front of a text and returns what
follows it. Every fault carries the rest of the text at the place
where it lies, so that a position is a difference of lengths and
nothing has to be counted on the way.

Beyond the JSON grammar the words `NaN`, `Infinity` and `-Infinity`
are numbers. Two dialects differ in what else they take: whether an
escape may name half of a surrogate pair alone, how long a number may
be, and how deep containers may nest. Two halves that follow each
other make one code point in both.
-/

set_option autoImplicit false

namespace DocScribe.Json

/-- The containers, for reports on nesting. -/
inductive Container where
  | array
  | object
deriving DecidableEq, Repr

/-- What the reader wanted, or what it refused. -/
inductive Fault where
  | expectingValue
  | expectingName
  | expectingColon
  | expectingComma
  | unterminatedString
  | controlCharacter
  | badEscape
  | badUnicodeEscape
  | extraData
  | byteOrderMark
deriving DecidableEq, Repr

/-- Why a text has no value at its front. -/
inductive ReadError where
  | malformed (fault : Fault) (rest : Text)
  | integerTooLong (digits : Nat)
  | nestingTooDeep (container : Container)
deriving DecidableEq

/-- A value that was read and the text behind it. -/
abbrev ReadResult (α : Type) := Except ReadError (α × Text)

/-- What a reader takes beyond the grammar. -/
structure Dialect where
  /-- how deep containers may nest -/
  nesting : Nat
  /-- whether a container without content counts as nested -/
  countsEmpty : Bool
  /-- whether an escape may name half of a pair alone -/
  takesHalves : Bool
  /-- whether the digit limit holds for numbers of all kinds -/
  limitsAll : Bool
deriving DecidableEq, Repr

/-- The dialect that is read wherever nothing else is said. -/
def Dialect.common : Dialect := ⟨990, true, true, false⟩

/-- The dialect of archives. -/
def Dialect.archive : Dialect := ⟨200, false, false, true⟩

/-- The blanks between the parts of a value. -/
def isSpace (c : CodePoint) : Bool :=
  c.val == 0x20 || c.val == 0x09 || c.val == 0x0A || c.val == 0x0D

/-- What follows the blanks. -/
def skipSpace (s : Text) : Text :=
  s.dropWhile isSpace

/-! ### Strings -/

/-- The code point of a pair of surrogates. -/
def joinSurrogates (high low : CodePoint) : CodePoint :=
  CodePoint.ofNatD (0x10000 + (high.val - 0xD800) * 0x400 + (low.val - 0xDC00))

/-- The four digits behind `\u`. Something has to follow them: the
string is not closed yet. -/
def hexQuad? : Text → Option (CodePoint × Text)
  | a :: b :: c :: d :: next :: rest => do
    let a ← a.hexValue?
    let b ← b.hexValue?
    let c ← c.hexValue?
    let d ← d.hexValue?
    pure (CodePoint.ofNatD (a * 4096 + b * 256 + c * 16 + d), next :: rest)
  | _ => none

/-- An escape for the second half of a pair. -/
def lowEscape? : Text → Option (CodePoint × Text)
  | a :: b :: rest =>
    if a = .backslash ∧ b = 'u' then
      match hexQuad? rest with
      | some (c, rest') => if c.isLowSurrogate then some (c, rest') else none
      | none => none
    else none
  | _ => none

/-- The code point that a one-letter escape stands for. -/
def shortEscape? (c : CodePoint) : Option CodePoint :=
  if c = .quoteSign ∨ c = .backslash ∨ c = '/' then some c
  else if c = 'b' then some .backspace
  else if c = 'f' then some .formFeed
  else if c = 'n' then some .lineFeed
  else if c = 'r' then some .carriageReturn
  else if c = 't' then some '\t'
  else none

/-- The code point that an escape names by number, with what follows
the four digits: half of a pair is joined with the other half if that
is next. -/
def pairedUnit (unit : CodePoint) (rest : Text) : CodePoint × Text :=
  if unit.isHighSurrogate then
    match lowEscape? rest with
    | some (low, rest') => (joinSurrogates unit low, rest')
    -- Nothing behind the first half is taken: an escape that is no second one is read on its own.
    | none => (unit, rest)
  else (unit, rest)

/-- The escape whose backslash stands before `s`. `opening` is the
text from the opening mark on. -/
def readEscape (d : Dialect) (opening s : Text) : ReadResult CodePoint :=
  match s with
  | [] => .error (.malformed .unterminatedString opening)
  | c :: rest =>
    -- A fault in the digits is placed at the letter, an unknown letter at the backslash.
    if c = 'u' then
      match hexQuad? rest with
      | none => .error (.malformed .badUnicodeEscape s)
      | some (unit, rest') =>
        let paired := pairedUnit unit rest'
        if paired.1.isSurrogate && !d.takesHalves then .error (.malformed .badUnicodeEscape s)
        else .ok paired
    else
      match shortEscape? c with
      | some d => .ok (d, rest)
      | none => .error (.malformed .badEscape (.backslash :: s))

/-- The string whose opening mark has been read, `read` being what
was read of it in reverse. `fuel` bounds the number of code points. -/
def readStringFrom (d : Dialect) (opening : Text) : Nat → Text → Text → ReadResult Text
  | 0, _, _ => .error (.malformed .unterminatedString opening)
  | _, _, [] => .error (.malformed .unterminatedString opening)
  | fuel + 1, read, c :: rest =>
    if c = .quoteSign then .ok (read.reverse, rest)
    else if c = .backslash then
      match readEscape d opening rest with
      | .error e => .error e
      | .ok (unit, rest') => readStringFrom d opening fuel (unit :: read) rest'
    else if c.val < 0x20 then .error (.malformed .controlCharacter (c :: rest))
    else readStringFrom d opening fuel (c :: read) rest

/-- The string behind an opening mark. -/
def readString (d : Dialect) (rest : Text) : ReadResult Text :=
  readStringFrom d (.quoteSign :: rest) (rest.length + 1) [] rest

/-! ### Numbers -/

/-- The digits at the front, and what follows them. -/
def spanDigits (s : Text) : Text × Text :=
  (s.takeWhile CodePoint.isDigit, s.dropWhile CodePoint.isDigit)

/-- The digits of a fraction, if a point and a digit are next. -/
def readFraction (s : Text) : Text × Text :=
  match s with
  | c :: rest =>
    -- A point without digits is left to whoever reads on.
    if c = '.' ∧ (spanDigits rest).1 ≠ [] then spanDigits rest else ([], s)
  | [] => ([], s)

/-- A sign in front of digits: whether it is a minus, and the rest. -/
def readSign (s : Text) : Bool × Text :=
  match s with
  | c :: rest => if c = '-' then (true, rest) else if c = '+' then (false, rest) else (false, s)
  | [] => (false, s)

/-- The exponent, if the mark and a digit are next. -/
def readExponent (s : Text) : Option Int × Text :=
  match s with
  | c :: rest =>
    if c = 'e' ∨ c = 'E' then
      let (negative, rest') := readSign rest
      let (digits, rest'') := spanDigits rest'
      -- Without digits the mark and the sign behind it are left too.
      if digits.isEmpty then (none, s)
      else
        let n : Int := Text.digitsValue digits
        (some (if negative then -n else n), rest'')
    else (none, s)
  | [] => (none, s)

/-- The whole part of a number: a zero, or digits that begin with
another digit. -/
def readWhole? (s : Text) : Option (Text × Text) :=
  match s with
  | c :: rest =>
    if c = '0' then some ([c], rest)
    else if c.isDigit then some (spanDigits s)
    else none
  | [] => none

/-- Whether a number has more digits in front of its point than the
dialect allows. -/
def isTooLong (d : Dialect) (isInteger : Bool) (whole : Text) : Bool :=
  (d.limitsAll || isInteger) && digitLimit < whole.length

/-- A number without its sign; `start` is the text where it begins. -/
def readUnsigned (d : Dialect) (start : Text) (negative : Bool) (s : Text) : ReadResult Json :=
  match readWhole? s with
  | none => .error (.malformed .expectingValue start)
  | some (whole, rest) =>
    let (fraction, rest') := readFraction rest
    let (exponent, rest'') := readExponent rest'
    let isInteger := fraction.isEmpty && exponent.isNone
    if isTooLong d isInteger whole then .error (.integerTooLong whole.length)
    else if isInteger then
      let n : Int := Text.digitsValue whole
      .ok (.int (if negative then -n else n), rest'')
    else
      .ok (.float (Double.ofDecimal negative (Text.digitsValue (whole ++ fraction))
        (exponent.getD 0 - fraction.length)), rest'')

/-- The words that are values. -/
def words : List (Text × Json) :=
  [("null", .null), ("true", .bool true), ("false", .bool false), ("NaN", .float .nan),
    ("Infinity", .float (.infinite false)), ("-Infinity", .float (.infinite true))]

/-- A word or a number. -/
def readPlain (d : Dialect) (s : Text) : ReadResult Json :=
  -- Words come first, since one of them begins like a number.
  match words.find? (fun w => w.1.isPrefixOf s) with
  | some w => .ok (w.2, s.drop w.1.length)
  | none =>
    match s with
    | c :: rest => if c = '-' then readUnsigned d s true rest else readUnsigned d s false s
    | [] => .error (.malformed .expectingValue s)

/-! ### Containers -/

/-- The items of an array from the first one on, given how one value
is read. -/
def readItems (readOne : Text → ReadResult Json) : Nat → List Json → Text → ReadResult Json
  | 0, _, s => .error (.malformed .expectingComma s)
  | fuel + 1, read, s =>
    match readOne s with
    | .error e => .error e
    | .ok (item, rest) =>
      match skipSpace rest with
      | [] => .error (.malformed .expectingComma [])
      | c :: rest' =>
        if c = ']' then .ok (.arr (item :: read).reverse, rest')
        -- Behind a comma there has to be another item: nothing asks for the bracket again.
        else if c = ',' then readItems readOne fuel (item :: read) (skipSpace rest')
        else .error (.malformed .expectingComma (c :: rest'))

/-- The members of an object from the first one on, given how one
value is read. -/
def readMembers (d : Dialect) (readOne : Text → ReadResult Json) :
    Nat → Members → Text → ReadResult Json
  | 0, _, s => .error (.malformed .expectingName s)
  | _, _, [] => .error (.malformed .expectingName [])
  | fuel + 1, read, q :: s =>
    if q ≠ .quoteSign then .error (.malformed .expectingName (q :: s))
    else
      match readString d s with
      | .error e => .error e
      | .ok (key, rest) =>
        match skipSpace rest with
        | [] => .error (.malformed .expectingColon [])
        | c :: rest' =>
          if c ≠ ':' then .error (.malformed .expectingColon (c :: rest'))
          else
            match readOne (skipSpace rest') with
            | .error e => .error e
            | .ok (value, rest'') =>
              match skipSpace rest'' with
              | [] => .error (.malformed .expectingComma [])
              | next :: tail =>
                if next = '\x7d' then .ok (.obj (ofMembers ((key, value) :: read).reverse), tail)
                else if next = ',' then
                  readMembers d readOne fuel ((key, value) :: read) (skipSpace tail)
                else .error (.malformed .expectingComma (next :: tail))

/-- The code point that closes a container. -/
def Container.closing : Container → CodePoint
  | .array => ']'
  | .object => '\x7d'

/-- A container without content. -/
def Container.empty : Container → Json
  | .array => .arr []
  | .object => .obj []

/-- What stands behind the opening mark of a container, given how the
content is read if there is some. -/
def readContainer (content : Container → Text → ReadResult Json) (container : Container)
    (s : Text) : ReadResult Json :=
  match skipSpace s with
  -- What is expected in place of the end depends on the container.
  | [] => content container []
  | c :: rest =>
    if c = container.closing then .ok (container.empty, rest) else content container (c :: rest)

/-- The content of a container, of which there is some. -/
def readContent (d : Dialect) (readOne : Text → ReadResult Json) (container : Container)
    (s : Text) : ReadResult Json :=
  match container, s with
  | .array, [] => .error (.malformed .expectingValue [])
  | .object, [] => .error (.malformed .expectingName [])
  | .array, _ :: _ => readItems readOne (s.length + 1) [] s
  | .object, _ :: _ => readMembers d readOne (s.length + 1) [] s

/-- A value, given how the inside of a container is read. -/
def readWith (d : Dialect) (inside : Container → Text → ReadResult Json) (s : Text) :
    ReadResult Json :=
  match s with
  | [] => .error (.malformed .expectingValue [])
  | c :: rest =>
    if c = .quoteSign then
      match readString d rest with
      | .error e => .error e
      | .ok (t, rest') => .ok (.str t, rest')
    else if c = '\x7b' then inside .object rest
    else if c = '[' then inside .array rest
    else readPlain d s

/-- The inside of a container that is nested too deep. -/
def readBeyond (d : Dialect) (container : Container) (s : Text) : ReadResult Json :=
  if d.countsEmpty then .error (.nestingTooDeep container)
  else readContainer (fun container _ => .error (.nestingTooDeep container)) container s

/-- The value at the front of a text whose containers nest at most
`depth` deep. No blanks may come first. -/
def readValue (d : Dialect) : Nat → Text → ReadResult Json
  | 0 => readWith d (readBeyond d)
  | depth + 1 => readWith d (readContainer (readContent d (readValue d depth)))

/-- The value at the front of a text. -/
def readFront (d : Dialect) (s : Text) : ReadResult Json :=
  readValue d d.nesting s

/-- The value that a text holds, with blanks around it and nothing
else. -/
def read (s : Text) : Except ReadError Json :=
  if s.head? = some .byteOrderMark then .error (.malformed .byteOrderMark s)
  else
    match readFront .common (skipSpace s) with
    | .error e => .error e
    | .ok (value, rest) =>
      -- The value may be read whatever follows, so what is left has to be looked at here.
      match skipSpace rest with
      | [] => .ok value
      | c :: rest' => .error (.malformed .extraData (c :: rest'))

/-! ### Reports -/

/-- A fault with its place: the offset counts code points from zero,
line and column count from one. -/
structure Malformed where
  fault : Fault
  line : Nat
  column : Nat
  offset : Nat
deriving DecidableEq, Repr

/-- Why a text cannot be read, with places in the whole text. -/
inductive ParseError where
  | malformed (report : Malformed)
  | integerTooLong (digits : Nat)
  | nestingTooDeep (container : Container)
deriving DecidableEq, Repr

/-- A fault placed in the whole text. -/
def Malformed.locate (whole : Text) (fault : Fault) (rest : Text) : Malformed :=
  -- `rest` is what is left of the whole text from the fault on.
  let offset := whole.length - rest.length
  let lines := Text.splitOn .lineFeed (whole.take offset)
  { fault, offset, line := lines.length, column := (lines.getLastD []).length + 1 }

/-- A reading error placed in the whole text. -/
def ReadError.locate (whole : Text) : ReadError → ParseError
  | .malformed fault rest => .malformed (Malformed.locate whole fault rest)
  | .integerTooLong digits => .integerTooLong digits
  | .nestingTooDeep container => .nestingTooDeep container

/-- Reading a whole text, with faults placed. -/
def parse (s : Text) : Except ParseError Json :=
  match read s with
  | .ok value => .ok value
  | .error e => .error (e.locate s)

def Fault.message : Fault → Text
  | .expectingValue => "Expecting value"
  | .expectingName => "Expecting property name enclosed in double quotes"
  | .expectingColon => "Expecting ':' delimiter"
  | .expectingComma => "Expecting ',' delimiter"
  | .unterminatedString => "Unterminated string starting at"
  | .controlCharacter => "Invalid control character at"
  | .badEscape => "Invalid \\escape"
  | .badUnicodeEscape => "Invalid \\uXXXX escape"
  | .extraData => "Extra data"
  | .byteOrderMark => "Unexpected UTF-8 BOM (decode using utf-8-sig)"

def Malformed.message (m : Malformed) : Text :=
  m.fault.message ++ ": line " ++ Text.ofNat m.line ++ " column " ++ Text.ofNat m.column
    ++ " (char " ++ Text.ofNat m.offset ++ ")"

def ParseError.message : ParseError → Text
  | .malformed report => report.message
  | .integerTooLong digits =>
    "Exceeds the limit (4300 digits) for integer string conversion: value has "
      ++ Text.ofNat digits
      ++ " digits; use sys.set_int_max_str_digits() to increase the limit"
  | .nestingTooDeep container =>
    "maximum recursion depth exceeded while decoding a JSON "
      ++ (match container with
        | .array => "array"
        | .object => "object")
      ++ " from a unicode string"

end DocScribe.Json
