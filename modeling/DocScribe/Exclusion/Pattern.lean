import DocScribe.Exclusion.Glob
import DocScribe.Text.Blank
import DocScribe.Text.Quoted

/-!
# `DocScribe.Exclusion.Pattern`: lines that exclude files

A line names files and folders. A blank line, a comment and a lone
slash name nothing, and neither does a line with a bracket that is
never closed. An exclamation mark in front takes files back in. A line
without a slash, or with one at its end only, names something at any
depth; other lines count from the root. A slash at the end names
folders only, and `**` stands for any folders.

Of all lines that match a path the last one decides.

A range whose ends are the wrong way round is reported with its place
in the written form of the pattern, in which everything is spelled
out; so the readers here keep track of how far that form has come.
-/

set_option autoImplicit false

namespace DocScribe

/-- A line as a pattern: whether it excludes what it matches or takes
it back in, and what it matches. -/
structure Pattern where
  excludes : Bool
  items : List GlobItem
deriving DecidableEq

/-- Why a line is no pattern. -/
inductive PatternError where
  /-- nothing behind the exclamation mark, or a backslash at the end -/
  | invalid (line : Text)
  /-- a range whose ends are the wrong way round; where it stands, and
  in which line and column if the pattern has several lines -/
  | badRange (first last : CodePoint) (position : Nat) (place : Option (Nat × Nat))
deriving DecidableEq

namespace PatternError

/-- A code point as it is written in a range. -/
def rangeEnd (c : CodePoint) : Text :=
  if c = .backslash then [c, c] else [c]

/-- A line and a column behind a position. -/
def placeText : Option (Nat × Nat) → Text
  | none => []
  | some (line, column) =>
    " (line " ++ Text.ofNat line ++ ", column " ++ Text.ofNat column ++ ")"

def message : PatternError → Text
  | .invalid line => "Invalid git pattern: " ++ line.quoted
  | .badRange first last position place =>
    "bad character range " ++ rangeEnd first ++ "-" ++ rangeEnd last ++ " at position "
      ++ Text.ofNat position ++ placeText place

end PatternError

namespace Pattern

/-- What stands for any folders. -/
def anyFolders : Text := "**"

/-! ### The written form -/

/-- How far the written form has come: its length, the number of its
last line, and where that line starts. -/
structure Cursor where
  position : Nat
  line : Nat
  lineStart : Nat
deriving DecidableEq, Repr

namespace Cursor

/-- Behind the mark that a written form begins with. -/
def start : Cursor := ⟨1, 1, 0⟩

/-- So many code points further on the same line. -/
def pass (n : Nat) (here : Cursor) : Cursor :=
  { here with position := here.position + n }

/-- Behind a code point that takes so much room, itself being the last
of it. -/
def passOver (room : Nat) (c : CodePoint) (here : Cursor) : Cursor :=
  let next := here.pass room
  if c = .lineFeed then { next with line := next.line + 1, lineStart := next.position } else next

/-- The column of a position, counted from one. -/
def column (here : Cursor) : Nat :=
  here.position - here.lineStart + 1

end Cursor

/-- What is wrong with a line, before it is known which line it is. -/
inductive Flaw where
  /-- no name is left, or a backslash stands at the end -/
  | invalid
  /-- a bracket is never closed -/
  | unclosed
  | badRange (first last : CodePoint) (place : Cursor)
deriving DecidableEq, Repr

/-- Whether a flaw is found while the written form is put together,
and not only in the whole of it. -/
def Flaw.isEarly : Flaw → Bool
  | .badRange _ _ _ => false
  | _ => true

/-- Two parts of a line put together. The first early flaw counts, and
any other one only if there is no such flaw. -/
def both {α β γ : Type} (combine : α → β → γ) (former : Except Flaw α)
    (later : Except Flaw β) : Except Flaw γ :=
  match former, later with
  | .ok a, .ok b => .ok (combine a b)
  | .ok _, .error e => .error e
  | .error e, .ok _ => .error e
  | .error e, .error f => .error (if !e.isEarly && f.isEarly then f else e)

/-! ### Segments -/

/-- The code points between brackets: whether they are meant as
outside of the ranges, the text of the ranges, and what follows the
closing bracket. A closing bracket in front is one of the code
points. -/
def brackets? (t : Text) : Option (Bool × Text × Text) :=
  let outside := t.head? == some (CodePoint.ofChar '!') || t.head? == some (CodePoint.ofChar '^')
  match if outside then t.drop 1 else t with
  | [] => none
  | c :: rest =>
    match Text.cutAt ']' rest with
    | (before, some after) => some (outside, c :: before, after)
    | (_, none) => none

/-- Signs that are written with a backslash in front. -/
def signs : Text :=
  "()[]\x7b\x7d?*+-|^$\\.&~# \t\n\r\x0b\x0c"

/-- How much room a code point takes in the written form. -/
def room (c : CodePoint) : Nat :=
  if signs.contains c then 2 else 1

/-- How much room a code point takes between brackets. -/
def innerRoom (c : CodePoint) : Nat :=
  if c = .backslash then 2 else 1

/-- Behind a code point between brackets. -/
def passInner (c : CodePoint) (here : Cursor) : Cursor :=
  here.passOver (innerRoom c) c

/-- Ranges from the text between brackets, which stands at a place in
the written form. -/
def ranges : Nat → Cursor → Text → Except Flaw (List (Nat × Nat))
  | 0, _, _ => .ok []
  | fuel + 1, here, text =>
    match text with
    | a :: b :: c :: rest =>
      if b = '-' then
        if c.val < a.val then .error (.badRange a c here)
        else
          (ranges fuel (passInner c ((passInner a here).pass 1)) rest).map ((a.val, c.val) :: ·)
      else (ranges fuel (passInner a here) (b :: c :: rest)).map ((a.val, a.val) :: ·)
    | a :: rest => (ranges fuel (passInner a here) rest).map ((a.val, a.val) :: ·)
    | [] => .ok []

/-- Behind the opening bracket and the mark for what is outside. -/
def enterBrackets (outside : Bool) (here : Cursor) : Cursor :=
  here.pass (if outside then 2 else 1)

/-- Behind the text between brackets and the closing one. -/
def passBrackets (outside : Bool) (text : Text) (here : Cursor) : Cursor :=
  (text.foldl (fun next c => passInner c next) (enterBrackets outside here)).pass 1

/-- Items, and where the next ones stand in the written form. -/
abbrev Written := Except Flaw (List GlobItem × Cursor)

/-- An item in front of others. -/
def inFront (item : GlobItem) (later : Written) : Written :=
  later.map fun found => (item :: found.1, found.2)

/-- The items of a segment. A backslash makes the next code point stand
for itself. -/
def segmentItems : Nat → Cursor → Text → Written
  | 0, here, _ => .ok ([], here)
  | _, here, [] => .ok ([], here)
  | fuel + 1, here, c :: rest =>
    if c = .backslash then
      match rest with
      | [] => .error .invalid
      | d :: rest => inFront (.one d) (segmentItems fuel (here.passOver (room d) d) rest)
    else if c = '*' then inFront .run (segmentItems fuel (here.pass 5) rest)
    else if c = '?' then inFront .any (segmentItems fuel (here.pass 4) rest)
    else if c = '[' then
      match brackets? rest with
      | some (outside, text, after) =>
        both (fun found later => (.oneOf outside found :: later.1, later.2))
          (ranges text.length (enterBrackets outside here) text)
          (segmentItems fuel (passBrackets outside text here) after)
      | none => .error .unclosed
    else inFront (.one c) (segmentItems fuel (here.passOver (room c) c) rest)

/-- How much room an item for folders takes in the written form. -/
def foldersRoom : Nat := 8

/-- A slash between two segments. -/
def slash (needed : Bool) : List GlobItem :=
  if needed then [.one '/'] else []

/-- The items of a segment that is not for folders; one that is a
single star matches no empty name. -/
def nameItems (here : Cursor) (segment : Text) : Written :=
  if segment = "*" then .ok ([.any, .run], here.pass 5)
  else segmentItems segment.length here segment

/-- The items of the segments from a place on; `needsSlash` says
whether a slash has to come first. -/
def laterItems : Bool → Cursor → List Text → Except Flaw (List GlobItem)
  | _, _, [] => .ok []
  | needsSlash, here, segment :: segments =>
    if segment = anyFolders then
      -- At the end everything below is meant, which the slash alone says.
      if segments.isEmpty then .ok [.one '/']
      else (laterItems true (here.pass foldersRoom) segments).map (.maybeInner :: ·)
    else
      let named := nameItems (here.pass (slash needsSlash).length) segment
      -- With a flaw here only a later flaw without a place can count, so any place will do.
      let next := match named with
        | .ok (_, next) => next
        | .error _ => here
      both (fun items later =>
          slash needsSlash ++ items.1 ++ (if segments.isEmpty then [.finish] else []) ++ later)
        named (laterItems true next segments)

/-- The items of all segments. -/
def pathItems : List Text → Except Flaw (List GlobItem)
  | [] => .error .invalid
  | segment :: segments =>
    if segment = anyFolders then
      (laterItems false (Cursor.start.pass foldersRoom) segments).map (.maybeFolders :: ·)
    else laterItems false .start (segment :: segments)

/-! ### Lines -/

/-- Folders in a row count once. -/
def collapse : List Text → List Text
  | [] => []
  | segment :: segments =>
    match collapse segments with
    | next :: later =>
      if segment = anyFolders ∧ next = anyFolders then next :: later
      else segment :: next :: later
    | [] => [segment]

/-- The segments as counted from the root: an empty first one says so,
a line of one segment may stand anywhere. -/
def fromRoot : List Text → List Text
  | [] :: segments => segments
  | [segment] => if segment = anyFolders then [segment] else [anyFolders, segment]
  | [segment, []] => if segment = anyFolders then [segment, []] else [anyFolders, segment, []]
  | segments => segments

/-- A slash at the end stands for all that is below. -/
def belowLast (segments : List Text) : List Text :=
  if segments.getLast? = some [] then segments.dropLast ++ [anyFolders] else segments

/-- The items of a line without its exclamation mark. Folders alone
are everything, or whatever lies in a folder if a slash ends the
line. -/
def lineItems (body : Text) : Except Flaw (List GlobItem) :=
  let written := Text.splitOn '/' body
  let segments := collapse (belowLast (fromRoot written))
  if segments = [anyFolders] then
    .ok (if written.getLast? = some [] then [.folders] else [])
  else pathItems segments

/-- A line without blanks at its end, unless the last is escaped. -/
def trimmed (line : Text) : Text :=
  if ("\\ " : Text).isSuffixOf line then line else line.trimEnd

/-- The line and the column of a place, for a pattern of several
lines. -/
def placeIn (body : Text) (here : Cursor) : Option (Nat × Nat) :=
  if body.contains .lineFeed then some (here.line, here.column) else none

/-- The pattern of a line that does or does not exclude what the rest
of it names. -/
def ofBody (line : Text) (excludes : Bool) (body : Text) : Except PatternError (Option Pattern) :=
  match lineItems body with
  | .ok items => .ok (some ⟨excludes, items⟩)
  | .error .unclosed => .ok none
  | .error .invalid => .error (.invalid line)
  | .error (.badRange first last place) =>
    .error (.badRange first last place.position (placeIn body place))

/-- The pattern of a line, if it names anything. -/
def ofLine (line : Text) : Except PatternError (Option Pattern) :=
  match trimmed line with
  | [] => .ok none
  | c :: rest =>
    if c = '#' then .ok none
    else if c :: rest = "/" then .ok none
    else if c = '!' then ofBody line false rest
    else ofBody line true (c :: rest)

/-- The patterns of all lines. -/
def ofLines : List Text → Except PatternError (List Pattern)
  | [] => .ok []
  | line :: lines => do
    let first ← ofLine line
    let others ← ofLines lines
    pure (first.toList ++ others)

/-- What a pattern says of a path, after what was said before. -/
def verdict (path : Text) (excluded : Bool) (pattern : Pattern) : Bool :=
  if Glob.matches? pattern.items path then pattern.excludes else excluded

/-- Whether the last pattern that matches a path excludes it. -/
def isExcluded (patterns : List Pattern) (path : Text) : Bool :=
  patterns.foldl (verdict path) false

end Pattern

end DocScribe
