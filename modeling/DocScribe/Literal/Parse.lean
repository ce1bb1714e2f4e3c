import DocScribe.Literal.Grammar
import DocScribe.Literal.Quotation
import Std.Data.HashMap

/-!
# `DocScribe.Literal.Parse`: expressions from tokens

The rules of the grammar are followed from the outermost one, with a
memory of what some of them have come to at every token, so that nothing
is read too often. The memory also holds how far the tokens have been
looked at: the end of the tokens refuses a text only when it is reached.

A text that does not fit is read a second time, with the rules that find
mistakes. Whatever comes of that, a flaw in the tokens that are left
takes precedence over it.
-/

set_option autoImplicit false

namespace DocScribe.Literal

/-- Why reading stops. -/
inductive Halt where
  /-- the end of the tokens was reached -/
  | atEnd
  | refused (refusal : Refusal)

/-- What a rule has come to: a tree and the token behind it, or that it
does not fit. -/
abbrev Found := Option (Tree × Nat)

/-- What reading remembers. -/
structure Memory where
  /-- how many tokens have been looked at -/
  seen : Nat
  found : Std.HashMap (Rule × Nat) Found

/-- Reading, which may stop. -/
abbrev Reading (α : Type) := ExceptT Halt (StateM Memory) α

/-- What is read: the tokens, how fields are read, and whether mistakes
are looked for. -/
structure Source where
  tokens : Array Token
  reader : FieldReader
  findsMistakes : Bool

/-- Stop for a flaw. -/
def refuse {α : Type} (flaw : Flaw) : Reading α :=
  throw (.refused (.own flaw))

namespace Source

/-- The kind of a token. -/
def kindAt (s : Source) (i : Nat) : Reading TokenKind := do
  modify fun m => { m with seen := max m.seen (i + 1) }
  match s.tokens[i]? with
  | some token => pure token.kind
  | none => throw .atEnd

/-- The source as a rule reads it: in an unmarked value no mistakes are
looked for. -/
def within (s : Source) (r : Rule) : Source :=
  if r = .unmarkedValue then { s with findsMistakes := false } else s

/-- How many brackets are open behind the token in front of `i`. -/
def depthBefore (s : Source) (i : Nat) : Nat :=
  match s.tokens[i - 1]? with
  | some token => token.depth
  | none => 0

/-- Whether a token is one of some signs. -/
def isSignAt (s : Source) (signs : List Text) (i : Nat) : Reading Bool := do
  match ← s.kindAt i with
  | .sign t => pure (signs.contains t)
  | _ => pure false

/-- The quotations from a token on, with their lines. -/
def quotationsAt (s : Source) : Nat → Nat → Reading (List (Text × Nat))
  | 0, _ => pure []
  | fuel + 1, i => do
    match ← s.kindAt i with
    | .quotation t => do
      let line := match s.tokens[i]? with
        | some token => token.line
        | none => 0
      pure ((t, line) :: (← s.quotationsAt fuel (i + 1)))
    | _ => pure []

end Source

/-! ### Values of tokens -/

/-- The most digits of an integer in base ten. -/
def integerDigitLimit : Nat := 4300

/-- The number that digits of some base spell. -/
def basedValue (base : Nat) (digits : Text) : Nat :=
  digits.foldl (fun n c => n * base + c.hexValue?.getD 0) 0

/-- The value of a number. -/
def numberOf (t : Text) : Reading Tree :=
  let digits : Text := t.filter fun (c : CodePoint) => c != '_'
  match digits with
  | c :: d :: rest =>
    match if c = '0' then base? d else none with
    | some (_, base) => pure (.atom (.integer (basedValue base rest)))
    | none => decimalOf digits
  | _ => decimalOf digits
where
  /-- The value of a number in base ten. -/
  decimalOf (digits : Text) : Reading Tree :=
    if digits.getLast?.any (fun (c : CodePoint) => c == 'j' || c == 'J') then
      pure (.atom .imaginary)
    else if !digits.all CodePoint.isDigit then pure (.atom .decimal)
    else if digits.head? != some (CodePoint.ofChar '0') && integerDigitLimit < digits.length then
      refuse (.tooLong digits.length)
    else pure (.atom (.integer (Text.digitsValue digits)))

/-- The value of quotations side by side. -/
def quotationsOf (reader : FieldReader) (quotations : List (Text × Nat)) : Reading Tree :=
  match readQuotations reader none quotations with
  | .ok .text => pure (.atom .text)
  | .ok .bytes => pure (.atom .bytes)
  | .ok .fields => pure (.atom .fields)
  | .error refusal => throw (.refused refusal)

/-- The names that are reserved words in other places. -/
def softWords : List Text := ["_", "case", "match"]

/-! ### Rules -/

/-- What a sequence of parts has come to: the trees and the token behind
them, or that it does not fit and whether another form may. -/
inductive Sequence where
  | fits (trees : List Tree) (next : Nat)
  | fails (mayGoOn : Bool)

/-- What one part has come to. -/
inductive Piece where
  | tree (t : Tree) (next : Nat)
  /-- it fits and leaves no trace -/
  | passes (next : Nat)
  | fails

/-- A part that fits or not and takes nothing. -/
def Piece.test (i : Nat) (fits : Bool) : Piece :=
  if fits then .passes i else .fails

/-- A part that takes one token, if that is right. -/
def Piece.take (i : Nat) (fits : Bool) : Piece :=
  if fits then .passes (i + 1) else .fails

mutual

/-- A rule at a token, `fuel` steps deep. -/
def readRule (s : Source) : Nat → Rule → Nat → Reading Found
  | 0, _, _ => pure none
  | fuel + 1, r, i => do
    if !isRemembered r then readForms (s.within r) fuel (forms r) i
    else
      -- Tokens that the remembered reading has looked at are counted in `seen` already.
      match (← get).found[(r, i)]? with
      | some found => pure found
      | none => do
        let found ← readForms s fuel (forms r) i
        modify fun m => { m with found := m.found.insert (r, i) found }
        pure found

/-- The first form that fits. -/
def readForms (s : Source) : Nat → List Form → Nat → Reading Found
  | 0, _, _ => pure none
  | _, [], _ => pure none
  | fuel + 1, form :: later, i => do
    if form.isForMistakes && !s.findsMistakes then readForms s fuel later i
    else
      match ← readParts s fuel form.parts i true [] with
      | .fits trees next =>
        match form.outcome (s.depthBefore next) trees with
        | .found t => pure (some (t, next))
        | .refused => pure none
        | .mistaken d => refuse (.disorder d)
      | .fails mayGoOn => if mayGoOn then readForms s fuel later i else pure none

/-- Parts one after another; the trees so far stand in reverse. -/
def readParts (s : Source) : Nat → List Part → Nat → Bool → List Tree → Reading Sequence
  | 0, _, _, mayGoOn, _ => pure (.fails mayGoOn)
  | _, [], i, _, trees => pure (.fits trees.reverse i)
  -- Behind a cut no later form of the rule is tried.
  | fuel + 1, .cut :: parts, i, _, trees => readParts s fuel parts i false trees
  | fuel + 1, part :: parts, i, mayGoOn, trees => do
    match ← readPart s fuel part i with
    | .tree t next => readParts s fuel parts next mayGoOn (t :: trees)
    | .passes next => readParts s fuel parts next mayGoOn trees
    | .fails => pure (.fails mayGoOn)

/-- One part. -/
def readPart (s : Source) : Nat → Part → Nat → Reading Piece
  | 0, _, _ => pure .fails
  | fuel + 1, part, i =>
    match part with
    | .rule r => do
      match ← readRule s fuel r i with
      | some (t, next) => pure (.tree t next)
      | none => pure .fails
    | .sign t => return .take i (← s.isSignAt [t] i)
    | .name => do
      match ← s.kindAt i with
      | .name t => pure (.tree (.name t) (i + 1))
      | _ => pure .fails
    | .number => do
      match ← s.kindAt i with
      | .number t => return .tree (← numberOf t) (i + 1)
      | _ => pure .fails
    | .quotations => do
      match ← s.quotationsAt (s.tokens.size + 1) i with
      | [] => pure .fails
      | quotations => return .tree (← quotationsOf s.reader quotations) (i + quotations.length)
    | .anyQuotation => do
      match ← s.kindAt i with
      | .quotation _ => pure (.passes (i + 1))
      | _ => pure .fails
    | .softWord => do
      match ← s.kindAt i with
      | .name t => pure (.take i (softWords.contains t))
      | _ => pure .fails
    | .lineEnd => return .take i ((← s.kindAt i) == .lineEnd)
    | .endMark => return .take i ((← s.kindAt i) == .endMark)
    | .optional r => do
      match ← readRule s fuel r i with
      | some (t, next) => pure (.tree t next)
      -- What is missing leaves a tree too, so that each tree of a form has its place.
      | none => pure (.tree .nothing i)
    | .optionalSign t => return if ← s.isSignAt [t] i then .passes (i + 1) else .passes i
    | .many r => do
      let (trees, next) ← readMany s fuel r i
      pure (.tree (.several trees) next)
    | .some r => do
      match ← readMany s fuel r i with
      | ([], _) => pure .fails
      | (trees, next) => pure (.tree (.several trees) next)
    | .listed r => do
      match ← readRule s fuel r i with
      | none => pure .fails
      | some (t, next) => do
        let (trees, next) ← readListed s fuel r next
        pure (.tree (.several (t :: trees)) next)
    | .ahead r => return .test i (← readRule s fuel r i).isSome
    | .notAhead r => return .test i (← readRule s fuel r i).isNone
    | .signAhead t => return .test i (← s.isSignAt [t] i)
    | .noSignAhead signs => return .test i (!(← s.isSignAt signs i))
    | .cut => pure (.passes i)

/-- A rule as often as it fits. -/
def readMany (s : Source) : Nat → Rule → Nat → Reading (List Tree × Nat)
  | 0, _, i => pure ([], i)
  | fuel + 1, r, i => do
    match ← readRule s fuel r i with
    | none => pure ([], i)
    | some (t, next) => do
      let (trees, last) ← readMany s fuel r next
      pure (t :: trees, last)

/-- A rule behind a comma as often as that fits. -/
def readListed (s : Source) : Nat → Rule → Nat → Reading (List Tree × Nat)
  | 0, _, i => pure ([], i)
  | fuel + 1, r, i => do
    if ← s.isSignAt [","] i then
      match ← readRule s fuel r (i + 1) with
      -- The comma is left: it may be one at the end.
      | none => pure ([], i)
      | some (t, next) => do
        let (trees, last) ← readListed s fuel r next
        pure (t :: trees, last)
    else pure ([], i)

end

/-! ### Texts -/

/-- A bound for the depth of reading: every token may open a bracket,
and the rules for what is in one are less than a thousand. -/
def depthBound (tokens : Array Token) : Nat :=
  2000 * (tokens.size + 4)

/-- The outermost rule from the first token on, and what is remembered
in the end. -/
def attempt (s : Source) (start : Rule) : Except Halt Found × Memory :=
  (readRule s (depthBound s.tokens) start 0).run.run ⟨0, ∅⟩

/-- The line of the last token that was looked at. -/
def lastLine (s : Source) (m : Memory) : Nat :=
  match s.tokens[min m.seen s.tokens.size - 1]? with
  | some token => token.line
  | none => 0

/-- Whether the last token that was looked at sets a line in. -/
def endsInIndent (s : Source) (m : Memory) : Bool :=
  match s.tokens[m.seen - 1]? with
  | some token => token.kind == .indent
  | none => false

/-- A flaw that may be one in the value of a field. -/
def placed (isField : Bool) (flaw : Flaw) : Flaw :=
  if isField then .inField flaw else flaw

/-- A flaw in the value of a field is reported as such, unless the scanner
found it. -/
def endFlaw (isField : Bool) : Ending → Flaw
  | .complete => placed isField (.disorder .plain)
  | .refused flaw => flaw
  | .stopped flaw _ => placed isField flaw

/-- The flaw in the tokens behind `line`, if there is one, or else
another flaw. A bracket that is never closed counts if it stands in an
earlier line. -/
def laterFlaw (isField : Bool) (line : Nat) (ending : Ending) (flaw : Flaw) : Flaw :=
  match ending with
  | .refused later => later
  | .stopped _ (some (bracket, opened)) =>
    if opened < line then placed isField (.neverClosed bracket) else flaw
  | _ => flaw

/-- The flaw that reading stopped for. The tokens that are left do not
count once the end of the text has been seen. -/
def haltFlaw (isField : Bool) (scanned : Scanned) (s : Source) (m : Memory) : Halt → Flaw
  | .atEnd => endFlaw isField scanned.ending
  | .refused refusal =>
    let flaw := match refusal with
      | .own flaw => placed isField flaw
      | .nested flaw => flaw
    if scanned.seesEnd && s.tokens.size ≤ m.seen then flaw
    else laterFlaw isField (lastLine s m) scanned.ending flaw

/-- The expression that tokens make, from an outermost rule on. -/
def parseTokens (reader : FieldReader) (isField : Bool) (scanned : Scanned) :
    Except Flaw Tree :=
  let start : Rule := if isField then .field else .whole
  let first : Source := ⟨scanned.tokens.toArray, reader, false⟩
  match attempt first start with
  | (.ok (some (t, _)), _) => .ok t
  | (.error halt, m) => .error (haltFlaw isField scanned first m halt)
  | (.ok none, m) =>
    -- The text is refused by now. The second reading only says what for.
    let second : Source := { first with findsMistakes := true }
    match attempt second start with
    | (.error halt, m') => .error (haltFlaw isField scanned second
        { m' with seen := max m.seen m'.seen } halt)
    | (.ok _, m') =>
      if endsInIndent first m then .error (placed isField .indented)
      else
        .error (laterFlaw isField (max (lastLine first m) (lastLine second m')) scanned.ending
          (placed isField (.disorder .plain)))

/-- The reader of fields, `depth` fields deep. -/
def fieldReader : Nat → FieldReader
  | 0, _, _ => .error (.disorder .plain)
  | depth + 1, line, t =>
    (parseTokens (fieldReader depth) true (scan line t)).map fun _ => ()

/-- The expression that a text is. A field is shorter than the text that
holds it. -/
def parse (t : Text) : Except Flaw Tree :=
  parseTokens (fieldReader t.length) false (scan 1 t)

end DocScribe.Literal
