import DocScribe.Toml.Document
import DocScribe.Toml.Scalar

/-!
# `DocScribe.Toml.Reader`: reading configuration files

A file is read statement by statement. Carriage returns in front of
line feeds are dropped first, also inside strings.
-/

set_option autoImplicit false

namespace DocScribe.Toml

/-- Code points of a key that needs no marks. -/
def isBare (c : CodePoint) : Bool :=
  c.isAsciiLetter || c.isDigit || c == '-' || c == '_'

/-- One part of a key. -/
def keyPart? (t : Text) : Option (Text × Text) :=
  match t with
  | [] => none
  | c :: _ =>
    if isBare c then some (t.takeWhile isBare, t.dropWhile isBare) else oneLine? t

/-- The parts of a key with points between them, at most `fuel`, and
what follows the blanks behind it. -/
def keyPath? : Nat → Text → Option (Key × Text)
  | 0, _ => none
  | fuel + 1, t => do
    let (part, rest) ← keyPart? t
    match after? '.' (skipGap rest) with
    | none => pure ([part], skipGap rest)
    | some rest =>
      let (parts, rest) ← keyPath? fuel (skipGap rest)
      pure (part :: parts, rest)

/-- What follows a comment, if one is next; it ends before the line
does. -/
def comment? (t : Text) : Option Text :=
  match t with
  | [] => some []
  | c :: rest =>
    if c = '#' then
      let held := rest.takeWhile (· != .lineFeed)
      if held.any isControl then none else some (rest.drop held.length)
    else some t

/-- What follows blanks, line ends and comments, at most `fuel`
comments. -/
def skipComments : Nat → Text → Option Text
  | 0, t => some t
  | fuel + 1, t =>
    match skipLines t with
    | [] => some []
    | c :: rest =>
      if c = '#' then do skipComments fuel (← comment? (c :: rest)) else some (c :: rest)

/-- How many steps inwards can be taken. -/
def stepLimit : Nat := 960

/-- The steps into a list and into a table of one line. -/
def listSteps : Nat := 2

@[inherit_doc listSteps]
def tableSteps : Nat := 3

mutual

/-- The value at the front, in at most `fuel` moves. So many steps inwards
are left. -/
def value : Nat → Nat → Text → Except ReadError (Toml × Text)
  | 0, _, _ => .error .malformed
  | fuel + 1, steps, t =>
    match t with
    | [] => .error .malformed
    | c :: rest =>
      if c = '[' then
        -- The step inwards is refused before anything of the content is looked at.
        if steps < listSteps then .error .nestingTooDeep
        else do
          let behind ← require (skipComments rest.length rest)
          match after? ']' behind with
          | some after => pure (.list [], after)
          | none =>
            let (items, after) ← listItems fuel (steps - listSteps) behind
            pure (.list items, after)
      else if c = '\x7b' then
        if steps < tableSteps then .error .nestingTooDeep
        else
          match after? '\x7d' (skipGap rest) with
          | some after => .ok (.table [], after)
          | none => do
            let (inner, after) ← inlineMembers fuel (steps - tableSteps) .empty (skipGap rest)
            pure (.table inner.members, after)
      else scalar t

/-- The items of a list from the next one on. -/
def listItems : Nat → Nat → Text → Except ReadError (List Toml × Text)
  | 0, _, _ => .error .malformed
  | fuel + 1, steps, t => do
    let (item, rest) ← value fuel steps t
    let behind ← require (skipComments rest.length rest)
    match after? ']' behind, after? ',' behind with
    | some after, _ => pure ([item], after)
    | none, none => .error .malformed
    | none, some next =>
      let next ← require (skipComments next.length next)
      -- A comma may stand behind the last item of a list, other than in a table of one line.
      match after? ']' next with
      | some after => pure ([item], after)
      | none =>
        let (items, after) ← listItems fuel steps next
        pure (item :: items, after)

/-- The members of a table of one line from the next one on. -/
def inlineMembers : Nat → Nat → InlineTable → Text → Except ReadError (InlineTable × Text)
  | 0, _, _, _ => .error .malformed
  | fuel + 1, steps, inner, t => do
    let (key, rest) ← require (keyPath? (t.length + 1) t)
    let rest ← require (after? '=' rest)
    let (found, rest) ← value fuel steps (skipGap rest)
    let inner ← require (inner.assign key found)
    let rest := skipGap rest
    match after? '\x7d' rest, after? ',' rest with
    | some after, _ => pure (inner, after)
    | none, some next => inlineMembers fuel steps inner (skipGap next)
    | none, none => .error .malformed

end

/-- The header whose opening bracket has been read. -/
def header (d : Document) (t : Text) : Except ReadError (Document × Text) :=
  match after? '[' t with
  | some rest => do
    let (key, rest) ← require (keyPath? (rest.length + 1) (skipGap rest))
    let d ← require (d.extend key)
    match Text.after? "]]" rest with
    | some after => pure (d, after)
    | none => .error .malformed
  | none => do
    let (key, rest) ← require (keyPath? (t.length + 1) (skipGap t))
    let d ← require (d.declare key)
    match after? ']' rest with
    | some after => pure (d, after)
    | none => .error .malformed

/-- The assignment at the front. -/
def assignment (d : Document) (t : Text) : Except ReadError (Document × Text) := do
  let (key, rest) ← require (keyPath? (t.length + 1) t)
  let rest ← require (after? '=' rest)
  let (found, rest) ← value (2 * rest.length + 2) stepLimit (skipGap rest)
  let d ← require (d.assign key found)
  pure (d, rest)

/-- The statement at the front, if the line holds one. -/
def statement (d : Document) (t : Text) : Except ReadError (Document × Text) :=
  match t with
  | [] => .ok (d, [])
  | c :: rest =>
    if c = '[' then header d rest
    else if isBare c || c == .quoteSign || c == .apostrophe then assignment d t
    else .ok (d, t)

/-- The lines from here on, at most `fuel`. -/
def linesFrom : Nat → Document → Text → Except ReadError Document
  | 0, d, _ => .ok d
  | fuel + 1, d, t => do
    let (d, rest) ← statement d (skipGap t)
    match comment? (skipGap rest) with
    | none => .error .malformed
    | some [] => .ok d
    | some (c :: rest) => if c = .lineFeed then linesFrom fuel d rest else .error .malformed

/-- A text without the carriage returns in front of line feeds. -/
def withoutReturns : Text → Text
  | [] => []
  | c :: rest =>
    if c = .carriageReturn ∧ rest.head? = some .lineFeed then withoutReturns rest
    else c :: withoutReturns rest

/-- The members of a configuration file. -/
def read (t : Text) : Except ReadError Members :=
  let t := withoutReturns t
  (linesFrom (t.length + 1) .empty t).map (·.members)

end DocScribe.Toml
