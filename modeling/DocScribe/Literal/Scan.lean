import DocScribe.Literal.Flaw
import DocScribe.Text.Word

/-!
# `DocScribe.Literal.Scan`: the tokens of a literal

A text is cut into names, numbers, quotations and signs. Line ends are
tokens only outside of all brackets, and a line that is set in or out
there begins with a token for that.

The scanner goes on until something cannot be part of a token, and what
it has found so far stays valid: whether the end is ever looked at is up
to the grammar.
-/

set_option autoImplicit false

namespace DocScribe.Literal

/-! ### Tokens -/

inductive TokenKind where
  | name (t : Text)
  | number (t : Text)
  /-- a quotation with its marks -/
  | quotation (t : Text)
  /-- a sign or a reserved word -/
  | sign (t : Text)
  | lineEnd
  | indent
  | dedent
  | endMark
deriving DecidableEq, Repr

/-- A token, the line where it stands, and how many brackets are open
behind it. -/
structure Token where
  kind : TokenKind
  line : Nat
  depth : Nat
deriving DecidableEq, Repr

/-- An open bracket and its line. -/
abbrev Bracket := CodePoint × Nat

/-- How the tokens end. -/
inductive Ending where
  | complete
  /-- the scanner refuses what comes next -/
  | refused (flaw : Flaw)
  /-- there is nothing to go on with; the bracket opened last, if one
  is open -/
  | stopped (flaw : Flaw) (opened : Option Bracket)
deriving DecidableEq, Repr

/-- The tokens of a text. -/
structure Scanned where
  tokens : List Token
  ending : Ending
  /-- whether the end of the text was seen with the last token -/
  seesEnd : Bool
deriving DecidableEq, Repr

/-- The words that are no names. -/
def reservedWords : List Text :=
  (["False", "None", "True", "and", "as", "assert", "async", "await", "break", "class",
    "continue", "def", "del", "elif", "else", "except", "finally", "for", "from", "global", "if",
    "import", "in", "is", "lambda", "nonlocal", "not", "or", "pass", "raise", "return", "try",
    "while", "with", "yield"] : List String).map Text.ofString

/-- The signs of three and of two code points. -/
def longSigns : List Text :=
  ["**=", "//=", ">>=", "<<=", "...", "!=", "%=", "&=", "**", "*=", "+=", "-=", "->", "//", "/=",
    ":=", "<<", "<=", "<>", "==", ">=", ">>", "@=", "^=", "|="]

/-! ### Numbers -/

/-- What may begin a name or a number's continuation, as far as ASCII
goes; beyond it the name is checked as a whole. -/
def isNameLike (c : CodePoint) : Bool :=
  c.isAsciiLetter || c.isDigit || c == '_' || 0x80 ≤ c.val

/-- Words that may follow a number without a blank. The first ones must
end where they end, the others may be the beginning of any word. -/
def wholeNeighbours : List Text := ["and", "else", "for", "or", "not"]

@[inherit_doc wholeNeighbours]
def beginningNeighbours : List Text := ["if", "in", "is"]

/-- Whether a word that may follow a number comes next. -/
def beginsNeighbour (t : Text) : Bool :=
  beginningNeighbours.any (·.isPrefixOf t)
    || wholeNeighbours.any fun word =>
      match Text.after? word t with
      | some rest => !rest.head?.any isNameLike
      | none => false

/-- A number ends here, unless ASCII letters follow. -/
def endNumber (form : NumberForm) (t : Text) : Except Flaw Text :=
  if !beginsNeighbour t && t.head?.any (fun c => c.val < 0x80 && isNameLike c) then
    .error (.badNumber form)
  else .ok t

/-- What follows digits with single low lines between them. -/
def afterDigits : Text → Except Flaw Text
  | [] => .ok []
  | c :: rest =>
    if c.isDigit then afterDigits rest
    else if c = '_' then
      match rest with
      | [] => .error (.badNumber .decimal)
      | d :: after => if d.isDigit then afterDigits after else .error (.badNumber .decimal)
    else .ok (c :: rest)

/-- What follows zeros with single low lines in front of them; the
last low line may be in front of another digit. -/
def afterZeros : Text → Except Flaw Text
  | [] => .ok []
  | c :: rest =>
    if c = '0' then afterZeros rest
    else if c = '_' then
      match rest with
      | [] => .error (.badNumber .decimal)
      | d :: after =>
        if d = '0' then afterZeros after
        else if d.isDigit then .ok (d :: after)
        else .error (.badNumber .decimal)
    else .ok (c :: rest)

/-- What follows the digits of a base other than ten. A digit may be
needed, and a low line may be allowed in front of it. -/
def afterBased (form : NumberForm) (base : Nat) (needsDigit mayPart : Bool) :
    Text → Except Flaw Text
  | [] => if needsDigit then .error (.badNumber form) else .ok []
  | c :: rest =>
    if c.hexValue?.any (· < base) then afterBased form base false true rest
    else if c = '_' ∧ mayPart then afterBased form base true false rest
    else if c.isDigit then .error (.badDigit c form)
    else if needsDigit then .error (.badNumber form)
    else .ok (c :: rest)

/-- What follows a number behind its digits, fraction and exponent. -/
def afterImaginary : Text → Except Flaw Text
  | [] => .ok []
  | c :: rest =>
    if c = 'j' ∨ c = 'J' then endNumber .imaginary rest else endNumber .decimal (c :: rest)

/-- What follows a number behind its digits and fraction. -/
def afterExponent (t : Text) : Except Flaw Text :=
  match t with
  | c :: d :: rest =>
    if c = 'e' ∨ c = 'E' then
      if d.isDigit then afterDigits rest >>= afterImaginary
      else if d = '+' ∨ d = '-' then
        if rest.head?.any CodePoint.isDigit then afterDigits rest >>= afterImaginary
        else .error (.badNumber .decimal)
      else endNumber .decimal t
    else afterImaginary t
  | _ => afterImaginary t

/-- What follows a number behind its point. -/
def afterPoint (t : Text) : Except Flaw Text :=
  if t.head?.any CodePoint.isDigit then afterDigits t >>= afterExponent else afterExponent t

/-- What follows a number that begins with a zero, behind that. -/
def afterZero (t : Text) : Except Flaw Text := do
  match ← afterZeros t with
  | [] => pure []
  | c :: rest =>
    let behind ← if c.isDigit then afterDigits rest else pure (c :: rest)
    match behind with
    | [] => if c.isDigit then throw .leadingZero else pure []
    | d :: after =>
      if d = '.' then afterPoint after
      else if ("eEjJ" : Text).contains d then afterExponent behind
      else if c.isDigit then throw .leadingZero
      else endNumber .decimal behind

/-- The base that a letter behind a zero stands for. -/
def base? (c : CodePoint) : Option (NumberForm × Nat) :=
  if c = 'x' ∨ c = 'X' then some (.hexadecimal, 16)
  else if c = 'o' ∨ c = 'O' then some (.octal, 8)
  else if c = 'b' ∨ c = 'B' then some (.binary, 2)
  else none

/-- What follows a number, which begins with a digit. -/
def afterNumber (t : Text) : Except Flaw Text :=
  match t with
  | [] => .ok []
  | c :: rest =>
    if c = '0' then
      match rest with
      | [] => .ok []
      | d :: behind =>
        match base? d with
        | some (form, base) => afterBased form base true true behind >>= endNumber form
        | none => afterZero rest
    else do
      match ← afterDigits rest with
      | [] => pure []
      | d :: after => if d = '.' then afterPoint after else afterExponent (d :: after)

/-! ### Quotations -/

def isQuoteMark (c : CodePoint) : Bool :=
  c == .quoteSign || c == .apostrophe

/-- The letters in front of a quotation mark, in small form. -/
def quotationLetters : List Text :=
  ["r", "u", "b", "f", "br", "rb", "fr", "rf"]

/-- A small ASCII letter for each capital one. -/
def smallLetters (t : Text) : Text :=
  t.flatMap fun c => if c.val < 0x80 then c.small else [c]

/-- What stands from the quotation mark on, behind letters that may be
in front of one. -/
def atMark? (t : Text) : Option Text :=
  [0, 1, 2].findSome? fun n =>
    match t.drop n with
    | c :: rest =>
      if isQuoteMark c && (n == 0 || quotationLetters.contains (smallLetters (t.take n))) then
        some (c :: rest)
      else none
    | [] => none

/-- What follows the closing mark or marks. What is next to a backslash
closes nothing. -/
def afterClosing? (mark : CodePoint) (isTriple : Bool) : Text → Option Text
  | [] => none
  | c :: rest =>
    if c = mark then
      if !isTriple then some rest
      else
        match Text.after? [mark, mark] rest with
        | some after => some after
        | none => afterClosing? mark isTriple rest
    else if c = .lineFeed ∧ !isTriple then none
    else if c = .backslash then
      match rest with
      | [] => none
      | _ :: after => afterClosing? mark isTriple after
    else afterClosing? mark isTriple rest

/-- How far the search for the closing mark goes if there is none. -/
def searched : Text → Text
  | [] => []
  | c :: rest =>
    if c = .lineFeed then []
    else if c = .backslash then
      match rest with
      | [] => [c]
      | d :: after => c :: d :: searched after
    else c :: searched rest

/-! ### Places -/

/-- Where the scanner stands: the line, whether at its beginning, the
open brackets, the last one first, and how far the enclosing lines are
set in, with tabs that count eight and that count one. -/
structure Place where
  line : Nat
  atStart : Bool
  opened : List Bracket
  indents : List (Nat × Nat)

namespace Place

/-- The first line number. -/
def start (line : Nat) : Place :=
  ⟨line, true, [], []⟩

/-- The line behind some text. A line begins only with what stands in
it, so the end of the last one changes nothing. -/
def lineBehind (line : Nat) (passed rest : Text) : Nat :=
  let ends := passed.count CodePoint.lineFeed
  if rest.isEmpty && passed.getLast? == some .lineFeed then line + (ends - 1) else line + ends

/-- The place behind some text, which is all but `rest` of `t`. -/
def behind (p : Place) (t rest : Text) : Place :=
  { p with line := lineBehind p.line (t.take (t.length - rest.length)) rest }

def stop (p : Place) (flaw : Flaw) : Ending :=
  .stopped flaw p.opened.head?

/-- The ending for a text that breaks off. -/
def breakOff (p : Place) : Ending :=
  match p.opened with
  | (bracket, line) :: _ => .stopped (.neverClosed bracket) (some (bracket, line))
  | [] => .stopped .endsEarly none

end Place

/-- What comes next: tokens, something between tokens, or the end. -/
inductive Step where
  | tokens (kinds : List TokenKind) (line : Nat) (place : Place) (rest : Text)
  | passed (place : Place) (rest : Text)
  | done (ending : Ending)

/-! ### Beginnings of lines -/

/-- How far a line is set in. -/
structure Indent where
  column : Nat
  narrow : Nat
  /-- the column of a backslash that the line went on behind, or zero -/
  carried : Nat
  rest : Text

/-- How far the text is set in, or why it cannot be told. -/
def indentOf (p : Place) (column narrow carried : Nat) : Text → Except Ending Indent
  | [] => .ok ⟨column, narrow, carried, []⟩
  | c :: rest =>
    if c = ' ' then indentOf p (column + 1) (narrow + 1) carried rest
    else if c = '\t' then indentOf p ((column / 8 + 1) * 8) (narrow + 1) carried rest
    -- Behind a form feed it is counted from the beginning again.
    else if c = .formFeed then indentOf p 0 0 carried rest
    else if c = .backslash then
      match rest with
      | [] => .error (p.stop .strayBackslash)
      | d :: after =>
        if d ≠ .lineFeed then .error (p.stop .strayBackslash)
        else if after.isEmpty then .error p.breakOff
        -- The first backslash that has blanks in front says how far the line is set in.
        else indentOf p column narrow (if carried = 0 then column else carried) after
    else .ok ⟨column, narrow, carried, c :: rest⟩

/-- The most levels of indented lines. -/
def indentLimit : Nat := 100

/-- The enclosing levels that a line set in so far leaves. -/
def leftLevels (column : Nat) : List (Nat × Nat) → List (Nat × Nat) × Nat
  | [] => ([], 0)
  | level :: levels =>
    if column < level.1 then ((leftLevels column levels).1, (leftLevels column levels).2 + 1)
    else (level :: levels, 0)

/-- The tokens for a line that is set in so far. -/
def indentStep (p : Place) (column narrow : Nat) (rest : Text) : Step :=
  let current := p.indents.headD (0, 0)
  if column = current.1 then
    if narrow ≠ current.2 then .done (p.stop .mixedIndents) else .passed p rest
  else if current.1 < column then
    if indentLimit ≤ p.indents.length + 1 then .done (p.stop .tooIndented)
    else if narrow ≤ current.2 then .done (p.stop .mixedIndents)
    else .tokens [.indent] p.line { p with indents := (column, narrow) :: p.indents } rest
  else
    let (levels, count) := leftLevels column p.indents
    let now := levels.headD (0, 0)
    if column ≠ now.1 then .done (p.stop .misaligned)
    else if narrow ≠ now.2 then .done (p.stop .mixedIndents)
    else .tokens (List.replicate count .dedent) p.line { p with indents := levels } rest

/-- The beginning of a line. A line that holds nothing but a comment
counts for nothing. -/
def lineStart (place : Place) (t : Text) : Step :=
  let p := { place with atStart := false }
  match indentOf p 0 0 0 t with
  | .error ending => .done ending
  | .ok indent =>
    let here := p.behind t indent.rest
    let isBlank := indent.rest.head?.any fun (c : CodePoint) => c == '#' || c == .lineFeed
    if isBlank then
      match indent.rest.dropWhile (· != .lineFeed) with
      | [] => .passed here []
      | c :: rest => .passed { here.behind (c :: rest) rest with atStart := true } rest
    -- Within brackets it does not matter how far a line is set in.
    else if !p.opened.isEmpty then .passed here indent.rest
    else if indent.carried ≠ 0 then indentStep here indent.carried indent.carried indent.rest
    else indentStep here indent.column indent.narrow indent.rest

/-! ### Tokens -/

/-- The first code point that keeps a word from being a name. -/
def strayInName? : Text → Option CodePoint
  | [] => none
  | c :: rest =>
    if c.startsName then rest.find? fun d => !d.continuesName else some c

/-- A name or a reserved word. -/
def nameStep (p : Place) (t : Text) : Step :=
  let word := t.takeWhile isNameLike
  let rest := t.drop word.length
  match strayInName? word with
  | some c => .done (.refused (.stray c))
  | none =>
    if reservedWords.contains word then .tokens [.sign word] p.line p rest
    else .tokens [.name word] p.line p rest

/-- A number; `after` is what follows it. -/
def numberStep (p : Place) (t : Text) (after : Except Flaw Text) : Step :=
  match after with
  | .ok rest => .tokens [.number (t.take (t.length - rest.length))] p.line p rest
  | .error flaw => .done (.refused flaw)

/-- A quotation; `marked` is what stands from its first mark on. -/
def quotationStep (p : Place) (t marked : Text) : Step :=
  match marked with
  | [] => .passed p t
  | mark :: inner =>
    let tripled := Text.after? [mark, mark] inner
    let content := tripled.getD inner
    match afterClosing? mark tripled.isSome content with
    | some rest =>
      .tokens [.quotation (t.take (t.length - rest.length))] p.line (p.behind t rest) rest
    | none =>
      let passed := if tripled.isSome then content else searched content
      .done (.refused (.unended tripled.isSome
        (Place.lineBehind p.line passed (content.drop passed.length))))

/-- The most brackets that may be open at once. -/
def bracketLimit : Nat := 200

/-- The bracket that a closing one belongs to. -/
def partner? (c : CodePoint) : Option CodePoint :=
  if c = ')' then some '('
  else if c = ']' then some '['
  else if c = '\x7d' then some '\x7b'
  else none

/-- A sign of one code point. -/
def signStep (p : Place) (c : CodePoint) (rest : Text) : Step :=
  if c = '(' ∨ c = '[' ∨ c = '\x7b' then
    if bracketLimit ≤ p.opened.length then .done (.refused .tooNested)
    else .tokens [.sign [c]] p.line { p with opened := (c, p.line) :: p.opened } rest
  else
    match partner? c, p.opened with
    | some _, [] => .done (.refused (.nothingToClose c))
    | some wanted, (last, line) :: others =>
      if last = wanted then .tokens [.sign [c]] p.line { p with opened := others } rest
      else
        .done (.refused (.closesOther c last (if line = p.line then none else some line)))
    | none, _ =>
      if Text.isHidden c then .done (.refused (.stray c)) else .tokens [.sign [c]] p.line p rest

/-- A token that begins with `c`. -/
def tokenStep (p : Place) (c : CodePoint) (rest : Text) : Step :=
  let t := c :: rest
  match atMark? t with
  | some marked => quotationStep p t marked
  | none =>
    if c.isDigit then numberStep p t (afterNumber t)
    else if isNameLike c then nameStep p t
    else if c = '.' ∧ rest.head?.any CodePoint.isDigit then numberStep p t (afterPoint rest)
    else
      match longSigns.find? (·.isPrefixOf t) with
      | some sign => .tokens [.sign sign] p.line p (t.drop sign.length)
      | none => signStep p c rest

/-- The end of a line. -/
def lineEndStep (p : Place) (t rest : Text) : Step :=
  let next := { p.behind t rest with atStart := true }
  if p.opened.isEmpty then .tokens [.lineEnd] p.line next rest else .passed next rest

/-- What comes next within a line. -/
def innerStep (p : Place) (t : Text) : Step :=
  match t with
  | [] =>
    if p.opened.isEmpty then .tokens [.endMark] p.line p [] else .done p.breakOff
  | c :: rest =>
    if c = ' ' ∨ c = '\t' ∨ c = .formFeed then .passed p rest
    else if c = '#' then .passed p (rest.dropWhile (· != .lineFeed))
    else if c = .lineFeed then lineEndStep p t rest
    else if c = .backslash then
      match rest with
      | [] => .done (p.stop .strayBackslash)
      | d :: after =>
        if d ≠ .lineFeed then .done (p.stop .strayBackslash)
        else if after.isEmpty then .done p.breakOff
        else .passed (p.behind t after) after
    else tokenStep p c rest

/-- Whether a token is found only by what follows it. The marks of a
quotation and three signs in a row end by themselves. -/
def looksBeyond : TokenKind → Bool
  | .name _ => true
  | .number _ => true
  | .sign t => t.length < 3 || reservedWords.contains t
  | _ => false

/-- The tokens from here on, at most `fuel` steps. -/
def scanFrom : Nat → Place → Text → Scanned
  | 0, _, _ => ⟨[], .complete, false⟩
  | fuel + 1, p, t =>
    match if p.atStart then lineStart p t else innerStep p t with
    | .done ending => ⟨[], ending, false⟩
    | .passed next rest => scanFrom fuel next rest
    | .tokens kinds line next rest =>
      let found := kinds.map fun kind => ⟨kind, line, next.opened.length⟩
      if kinds.contains .endMark then ⟨found, .complete, false⟩
      else
        let later := scanFrom fuel next rest
        ⟨found ++ later.tokens, later.ending,
          later.seesEnd || (rest.isEmpty && kinds.any looksBeyond)⟩

/-- The tokens of a text, whose first line has a number. -/
def scan (line : Nat) (t : Text) : Scanned :=
  scanFrom (2 * t.length + 4) (.start line) t

example : (scan 1 "(").ending = .stopped (.neverClosed '(') (some ('(', 1)) := by decide +kernel
example : (scan 1 "a.5").tokens.map Token.kind =
    [.name "a", .number ".5", .endMark] := by decide +kernel

end DocScribe.Literal
