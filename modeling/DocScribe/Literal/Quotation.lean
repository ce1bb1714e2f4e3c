import DocScribe.Literal.CharacterNames
import DocScribe.Literal.Scan

/-!
# `DocScribe.Literal.Quotation`: what quotations hold

A quotation is text, bytes, or text with fields, as the letters in
front of it say. A further letter makes it plain: its backslashes mean
nothing. Otherwise they begin escapes, and an escape that breaks off is
a flaw. So is a field whose value cannot be read as an expression of
its own, for which the reader of expressions is handed in.

Places in a text are counted as in the form with escapes only, in which
every code point beyond ASCII takes ten characters.
-/

set_option autoImplicit false

namespace DocScribe.Literal

/-- What quotations amount to. -/
inductive QuotationKind where
  | text
  | bytes
  /-- text with fields -/
  | fields
deriving DecidableEq, Repr

/-- A refusal of a quotation: for a flaw of its own, or for one that the
reader of expressions found in a field. -/
inductive Refusal where
  | own (flaw : Flaw)
  | nested (flaw : Flaw)
deriving DecidableEq, Repr

/-- A quotation in its parts. -/
structure Quotation where
  kind : QuotationKind
  isPlain : Bool
  content : Text

/-- The letters, the mark and the content of a quotation. -/
def Quotation.ofToken (t : Text) : Quotation :=
  let letters := smallLetters (t.takeWhile fun c => !isQuoteMark c)
  let inner := (t.drop (letters.length + 1)).dropLast
  let mark := (t.drop letters.length).head?
  -- `inner` has lost one mark at either end: two more at each are those of a tripled quotation.
  let isTriple := 4 ≤ inner.length && inner.head? == mark && (inner.drop 1).head? == mark
  { kind := if letters.contains 'b' then .bytes else if letters.contains 'f' then .fields else .text
    isPlain := letters.contains 'r'
    content := if isTriple then ((inner.drop 2).dropLast).dropLast else inner }

/-! ### Escapes -/

/-- How many characters a code point takes. -/
def escapedWidth (c : CodePoint) : Nat :=
  if c.val < 0x80 then 1 else 10

/-- How many characters a text takes. A backslash that begins no escape
is written as one. -/
def escapedLength : Text → Nat
  | [] => 0
  | c :: rest =>
    if c ≠ .backslash then escapedWidth c + escapedLength rest
    else
      match rest with
      | [] => 6
      | d :: after => (if 0x80 ≤ d.val then 6 else 1) + escapedWidth d + escapedLength after

/-- The number of hexadecimal digits in front, at most `most`. -/
def hexCount (most : Nat) (t : Text) : Nat :=
  ((t.take most).takeWhile fun c => c.hexValue?.isSome).length

/-- What is wrong with digits behind a letter, and how many characters
the escape takes so far. -/
def digitsDefect? (letter : CodePoint) (most : Nat) (after : Text) : Option (EscapeDefect × Nat) :=
  let count := hexCount most after
  if count < most then some (.cutShort letter most, 2 + count)
  else if 0x110000 ≤ (after.take most).foldl (fun n c => n * 16 + c.hexValue?.getD 0) 0 then
    some (.beyondLast, 2 + most)
  else none

/-- What is wrong with a name in braces, and how many characters the
escape takes so far. -/
def nameDefect? (after : Text) : Option (EscapeDefect × Nat) :=
  match Text.after? "\x7b" after with
  | none => some (.noName, 2)
  | some behind =>
    match Text.cutAt '\x7d' behind with
    | (name, none) => some (.noName, 3 + escapedLength name)
    | ([], some _) => some (.noName, 3)
    | (name, some _) =>
      if characterNames.contains name.toCapital.toString then none
      else some (.unknownName, 3 + escapedLength (name ++ [CodePoint.ofChar '\x7d']))

/-- What is wrong with the escape that a letter begins, and how many
characters it takes so far. -/
def escapeDefect? (letter : CodePoint) (after : Text) : Option (EscapeDefect × Nat) :=
  if letter = 'x' then digitsDefect? letter 2 after
  else if letter = 'u' then digitsDefect? letter 4 after
  else if letter = 'U' then digitsDefect? letter 8 after
  else if letter = 'N' then nameDefect? after
  else none

/-- The first bad escape of a text, `place` characters into the
whole. -/
def escapeFlaw? (place : Nat) : Text → Option Flaw
  | [] => none
  | c :: rest =>
    if c ≠ .backslash then escapeFlaw? (place + escapedWidth c) rest
    else
      match rest with
      | [] => none
      | d :: after =>
        if 0x80 ≤ d.val then escapeFlaw? (place + 6 + escapedWidth d) after
        else
          match escapeDefect? d after with
          | some (defect, length) => some (.badEscape defect place (place + length - 1))
          | none => escapeFlaw? (place + 2) after

/-- The first bad escape of bytes. -/
def byteFlaw? (place : Nat) : Text → Option Flaw
  | [] => none
  | c :: rest =>
    if c ≠ .backslash then byteFlaw? (place + 1) rest
    else
      match rest with
      | [] => none
      | d :: after =>
        if d = 'x' ∧ hexCount 2 after < 2 then some (.badByte place)
        else byteFlaw? (place + 2) after

/-! ### Values of fields -/

/-- The most brackets within a field. -/
def fieldBracketLimit : Nat := 200

/-- The quotation that the search for the end of a value is in: its mark
and whether that is tripled. -/
abbrev Within := Option (CodePoint × Bool)

/-- Whether two signs are one sign that ends no value. -/
def isPaired (c d : CodePoint) : Bool :=
  ("!=<>" : Text).contains c && d == '='

/-- The value at the front of a field, in reverse behind `seen`, and
what follows it, at most `fuel` steps on. -/
def valueEnd : Nat → Within → List CodePoint → Text → Text → Except FieldDefect (Text × Text)
  | 0, _, _, seen, t => .ok (seen.reverse, t)
  | _, within, opened, seen, [] =>
    match within, opened with
    | some _, _ => .error .unended
    | none, last :: _ => .error (.unmatched last)
    | none, [] => .ok (seen.reverse, [])
  | fuel + 1, within, opened, seen, c :: rest =>
    let next (within : Within) (opened : List CodePoint) :=
      valueEnd fuel within opened (c :: seen) rest
    if c = .backslash then .error .backslash
    else
      match within with
      -- Within a quotation nothing counts but its mark.
      | some (mark, false) => next (if c = mark then none else within) opened
      | some (mark, true) =>
        match Text.after? [mark, mark, mark] (c :: rest) with
        | some after => valueEnd fuel none opened (c :: c :: c :: seen) after
        | none => next within opened
      | none =>
        if isQuoteMark c then
          match Text.after? [c, c] rest with
          | some after => valueEnd fuel (some (c, true)) opened (c :: c :: c :: seen) after
          | none => next (some (c, false)) opened
        else if c = '(' ∨ c = '[' ∨ c = '\x7b' then
          if fieldBracketLimit ≤ opened.length then .error .tooNested else next none (c :: opened)
        else if c = '#' then .error .comment
        -- Outside of all brackets these signs end the value, unless they belong to a comparison.
        else if opened.isEmpty && ("!:=<>\x7d" : Text).contains c then
          match rest with
          | d :: after =>
            if isPaired c d then valueEnd fuel none opened (d :: c :: seen) after
            else if c = '<' ∨ c = '>' then next none opened
            else .ok (seen.reverse, c :: rest)
          | [] =>
            if c = '<' ∨ c = '>' then next none opened else .ok (seen.reverse, c :: rest)
        else
          match partner? c, opened with
          | some _, [] => .error (.unmatched c)
          | some wanted, last :: others =>
            if last = wanted then next none others else .error (.closesOther c last)
          | none, _ => next none opened

/-- The blanks that a value may consist of. -/
def isValueBlank (c : CodePoint) : Bool :=
  c == ' ' || c == '\t' || c == .lineFeed || c == .formFeed

/-- The blanks behind an equals sign. -/
def isSpace (c : CodePoint) : Bool :=
  c == ' ' || (0x09 ≤ c.val && c.val ≤ 0x0D)

/-! ### Text between fields -/

/-- The text in front of a field or of the end, in reverse behind
`seen`, what follows, and whether that is more text, behind a doubled
brace. -/
def literalEnd (isPlain isTop : Bool) : Nat → Text → Text →
    Except FieldDefect (Text × Text × Bool)
  | 0, seen, t => .ok (seen.reverse, t, false)
  | _, seen, [] => .ok (seen.reverse, [], false)
  | fuel + 1, seen, c :: rest =>
    let atBrace (seen : Text) (c : CodePoint) (rest : Text) :
        Except FieldDefect (Text × Text × Bool) :=
      if c = '\x7b' ∨ c = '\x7d' then
        if isTop && rest.head? == some c then .ok ((c :: seen).reverse, rest.drop 1, true)
        else if isTop && c == '\x7d' then .error .loneBrace
        else .ok (seen.reverse, c :: rest, false)
      else literalEnd isPlain isTop fuel (c :: seen) rest
    if c = .backslash ∧ !isPlain then
      match rest with
      | [] => .ok ((c :: seen).reverse, [], false)
      | d :: after =>
        if d = 'N' then
          match after with
          | [] => .ok ((d :: c :: seen).reverse, [], false)
          | e :: behind =>
            -- The braces around the name of a character are no braces of a field.
            if e = '\x7b' then
              let name := behind.takeWhile fun (c : CodePoint) => c != '\x7d'
              let closed := (behind.drop name.length).take 1
              literalEnd isPlain isTop fuel
                (closed ++ name.reverse ++ (e :: d :: c :: seen))
                (behind.drop (name.length + 1))
            else literalEnd isPlain isTop fuel (e :: d :: c :: seen) behind
        -- A backslash keeps no brace from being one.
        else atBrace (c :: seen) d after
    else atBrace seen c rest

/-! ### Fields -/

/-- The reader of the expressions in fields: the number of the line, and
the text. -/
abbrev FieldReader := Nat → Text → Except Flaw Unit

/-- A quotation with fields: where it stands and what it holds. -/
structure FieldText where
  line : Nat
  isPlain : Bool
  content : Text

namespace FieldText

/-- The line in which a rest of the content begins. -/
def lineAt (f : FieldText) (rest : Text) : Nat :=
  f.line + (f.content.count .lineFeed - rest.count .lineFeed)

/-- A flaw of a field. -/
def bad {α : Type} (defect : FieldDefect) : Except Refusal α :=
  .error (.own (.badField defect))

/-- The value of a field is read; `after` begins with what ends it. -/
def readValue (reader : FieldReader) (line : Nat) (value after : Text) :
    Except Refusal Unit :=
  if value.all isValueBlank then
    match after with
    | c :: _ => if c = '\x7d' then bad .empty else bad (.emptyBefore c)
    | [] => bad .empty
  else
    let written : Text := "(" ++ value ++ ")" ++ [CodePoint.lineFeed]
    (reader line written).mapError fun flaw => .nested flaw

/-- What follows the equals sign behind a value, and blanks. -/
def afterEquals (t : Text) : Except Refusal Text :=
  match Text.after? "=" t with
  | none => .ok t
  | some rest =>
    match rest.dropWhile isSpace with
    | [] => bad .unclosed
    | c :: after => .ok (c :: after)

/-- What follows the conversion of a value. -/
def afterConversion (t : Text) : Except Refusal Text :=
  match Text.after? "!" t with
  | none => .ok t
  | some [] => bad .unclosed
  | some (c :: rest) => if c = 's' ∨ c = 'r' ∨ c = 'a' then .ok rest else bad .badConversion

mutual

/-- What follows the text and the fields from here on: nothing, or the
end of the field whose layout they are, `level` fields deep. -/
def afterPieces (f : FieldText) (reader : FieldReader) : Nat → Nat → Text → Except Refusal Text
  | 0, _, t => .ok t
  | fuel + 1, level, t => do
    let (literal, rest, goesOn) ← (literalEnd f.isPlain (level == 0) (t.length + 1) [] t).mapError
      fun defect => Refusal.own (.badField defect)
    if !f.isPlain then
      match escapeFlaw? 0 literal with
      | some flaw => throw (.own flaw)
      | none => pure ()
    if goesOn then afterPieces f reader fuel level rest
    else
      match rest with
      | [] => if level = 0 then pure [] else bad .unclosed
      | c :: behind =>
        if c = '\x7d' then pure (c :: behind)
        else afterPieces f reader fuel level (← afterField f reader fuel level (c :: behind) behind)

/-- What follows a field, of which the brace is in front of `t`. -/
def afterField (f : FieldText) (reader : FieldReader) :
    Nat → Nat → Text → Text → Except Refusal Text
  | 0, _, _, t => .ok t
  | fuel + 1, level, start, t => do
    if 2 ≤ level then bad .tooDeep
    let (value, after) ← (valueEnd (t.length + 1) none [] [] t).mapError
      fun defect => Refusal.own (.badField defect)
    if after.isEmpty then bad .unclosed
    readValue reader (f.lineAt start) value after
    let behind ← afterConversion (← afterEquals after)
    let closing ← match Text.after? ":" behind with
      | none => pure behind
      | some [] => bad .unclosed
      -- The layout of a field is text with fields in turn, one level further in.
      | some (c :: layout) => afterPieces f reader fuel (level + 1) (c :: layout)
    match Text.after? "\x7d" closing with
    | some rest => pure rest
    | none => bad .unclosed

end

end FieldText

/-! ### Quotations side by side -/

/-- What is wrong with one quotation, apart from its fields. -/
def Quotation.flaw? (q : Quotation) : Option Flaw :=
  match q.kind with
  | .bytes =>
    if q.content.any (0x80 ≤ ·.val) then some .notAscii
    else if q.isPlain then none
    else byteFlaw? 0 q.content
  | .text => if q.isPlain then none else escapeFlaw? 0 q.content
  | .fields => none

/-- What quotations side by side amount to, after those before them. -/
def readQuotations (reader : FieldReader) :
    Option QuotationKind → List (Text × Nat) → Except Refusal QuotationKind
  | before, [] => .ok (before.getD .text)
  | before, (t, line) :: later => do
    let q := Quotation.ofToken t
    match q.flaw? with
    | some flaw => throw (.own flaw)
    | none => pure ()
    -- Bytes stand beside nothing but bytes.
    if before.any fun kind => (kind == .bytes) != (q.kind == .bytes) then
      throw (.own .mixedQuotations)
    if q.kind = .fields then
      let _ ← FieldText.afterPieces ⟨line, q.isPlain, q.content⟩ reader
        (2 * q.content.length + 4) 0 q.content
    readQuotations reader
      (some (if before = some .fields then .fields else q.kind)) later

end DocScribe.Literal
