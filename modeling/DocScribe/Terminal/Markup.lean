import DocScribe.Terminal.Emoji
import DocScribe.Terminal.Handler
import DocScribe.Terminal.Style

/-!
# `DocScribe.Terminal.Markup`: styled text and what it shows

Lines for the terminal carry their styles as tags: `[green]`,
`[/green]`. A tag is an opening bracket, a small letter or one of
three signs, and anything but an opening bracket up to the next
closing one. Text that comes from elsewhere is escaped, so that what
looks like a tag in it is shown.

What is shown of a text is what stands between its tags, with the
emoji that it names. Backslashes in front of a tag are halved, and an
odd one out makes the tag plain text. A backslash in front of any
other opening bracket is dropped, and so are control characters that
would move the cursor.

A closing tag closes the last open tag with its style, or the last
one at all if it names none. There has to be one, and if it calls
something, its arguments have to be readable.
-/

set_option autoImplicit false

namespace DocScribe.Markup

/-- What may follow the opening bracket of a tag. -/
def startsTag (c : CodePoint) : Bool :=
  (0x61 ≤ c.val && c.val ≤ 0x7A) || c == '#' || c == '/' || c == '@'

/-- The rest of a tag up to its closing bracket, and what follows. -/
def tagBody? : Text → Option (Text × Text)
  | [] => none
  | c :: rest =>
    if c = ']' then some ([c], rest)
    else if c = '[' then none
    else (tagBody? rest).map fun found => (c :: found.1, found.2)

/-- The tag at the front of a text, and what follows it. -/
def tag? : Text → Option (Text × Text)
  | a :: b :: rest =>
    if a = '[' ∧ startsTag b then (tagBody? rest).map fun found => (a :: b :: found.1, found.2)
    else none
  | _ => none

/-- The backslashes at the front of a text, and what follows them. -/
def backslashes : Text → Nat × Text
  | [] => (0, [])
  | c :: rest =>
    if c = .backslash then ((backslashes rest).1 + 1, (backslashes rest).2) else (0, c :: rest)

/-- So many backslashes. -/
def row (n : Nat) : Text :=
  List.replicate n .backslash

/-- A text with its tags escaped, `fuel` code points far. -/
def escapeTags : Nat → Text → Text
  | 0, t => t
  | _, [] => []
  | fuel + 1, c :: rest =>
    let (count, behind) := backslashes (c :: rest)
    match tag? behind with
    -- Twice the backslashes show as many as there were; the odd one makes the tag plain text.
    | some (tag, after) => row (2 * count + 1) ++ tag ++ escapeTags fuel after
    | none =>
      if count = 0 then c :: escapeTags fuel rest
      else row count ++ escapeTags fuel behind

/-- Whether a text ends in one backslash and not in two. -/
def endsInOne (t : Text) : Bool :=
  match t.reverse with
  | a :: b :: _ => a == .backslash && b != .backslash
  | [a] => a == .backslash
  | [] => false

/-- A text that shows itself. A single backslash at the end is
doubled, in case a tag follows. -/
def escape (t : Text) : Text :=
  let escaped := escapeTags t.length t
  if endsInOne escaped then escaped ++ [.backslash] else escaped

/-- Control characters that are never shown. -/
def isDropped (c : CodePoint) : Bool :=
  c.val == 7 || c.val == 8 || c.val == 11 || c.val == 12 || c.val == 13

/-- A piece of a text: a stretch that is shown, or a tag with its
place and what stands between its brackets. -/
inductive Piece where
  | shown (t : Text)
  | tag (position : Nat) (content : Text)
deriving DecidableEq

/-- A stretch, unless it is empty. -/
def stretch (t : Text) : List Piece :=
  if t.isEmpty then [] else [.shown t]

/-- What stands between the brackets of a tag. -/
def contentOf (tag : Text) : Text :=
  (tag.drop 1).dropLast

/-- The pieces of a text from `position` on, `fuel` code points far;
`before` is the stretch that has begun, in reverse. Every stretch of
backslashes in front of a tag is a piece of its own. -/
def piecesFrom : Nat → Nat → Text → Text → List Piece
  | 0, _, before, t => stretch (before.reverse ++ t)
  | _, _, before, [] => stretch before.reverse
  | fuel + 1, position, before, c :: rest =>
    let (count, behind) := backslashes (c :: rest)
    match tag? behind with
    | some (tag, after) =>
      stretch before.reverse ++ stretch (row (count / 2))
        ++ (if count % 2 = 1 then Piece.shown tag
          else .tag (position + count / 2 * 2) (contentOf tag))
        :: piecesFrom fuel (position + count + tag.length) [] after
    | none =>
      if count = 0 then piecesFrom fuel (position + 1) (c :: before) rest
      else piecesFrom fuel (position + count) (row count ++ before) behind

/-- The pieces of a text. -/
def pieces (t : Text) : List Piece :=
  piecesFrom t.length 0 [] t

/-- A stretch without the backslashes in front of its brackets. -/
def withoutEscapes : Text → Text
  | [] => []
  | [c] => [c]
  | c :: d :: rest =>
    if c = .backslash ∧ d = '[' then d :: withoutEscapes rest
    else c :: withoutEscapes (d :: rest)

/-- What a piece shows. -/
def Piece.toText : Piece → Text
  | .shown t => Emoji.replace (withoutEscapes t)
  | .tag _ _ => []

/-- What a text shows. -/
def plain (t : Text) : Text :=
  ((pieces t).flatMap Piece.toText).filter fun c => !isDropped c

example : plain (escape "pkg[extra]" ++ "[/dim]") = "pkg[extra]" := by decide
example : plain ("[dim]" ++ escape "a\\" ++ "[/dim]") = "a\\" := by decide

/-! ### Closing tags -/

/-- Why a closing tag closes nothing. -/
inductive Fault where
  /-- no open tag has the style that it names -/
  | unmatched (content : Text) (position : Nat)
  /-- no tag is open -/
  | nothingOpen (position : Nat)
  /-- the tag that it closes has unreadable arguments -/
  | badArguments (written : Text) (fault : Literal.Fault)
  /-- a tag names a color that cannot be read -/
  | badColor (fault : Style.Fault)
deriving DecidableEq

def Fault.message : Fault → Text
  | .unmatched content position =>
    "closing tag '[" ++ content ++ "]' at position " ++ Text.ofNat position
      ++ " doesn't match any open tag"
  | .nothingOpen position =>
    "closing tag '[/]' at position " ++ Text.ofNat position ++ " has nothing to close"
  | .badArguments written fault => Handler.report written fault
  | .badColor fault => fault.message

def Fault.typeName : Fault → Text
  | .badColor _ => "ValueError"
  | _ => "MarkupError"

/-- An open tag: its style or name, and what stands behind an equals
sign. -/
structure Opened where
  style : Text
  written : Option Text
deriving DecidableEq

/-- The tag that calls something has to say so in a readable way when
it is closed. -/
def close (tag : Opened) : Except Fault Unit :=
  match Text.after? "@" tag.style, tag.written with
  | some _, some (c :: rest) =>
    match Handler.fault? (c :: rest) with
    | none => .ok ()
    | some fault => .error (.badArguments (c :: rest) fault)
  | _, _ => .ok ()

/-- The open tags behind the tag with a content, the last one first,
or the fault in it. -/
def enter (opened : List Opened) (position : Nat) (content : Text) :
    Except Fault (List Opened) := do
  let (name, written) := Text.cutAt '=' content
  match Text.after? "/" name with
  | none => pure (⟨← (Style.canonical name).mapError .badColor, written⟩ :: opened)
  | some closed =>
    if closed.trim.isEmpty then
      match opened with
      | [] => throw (.nothingOpen position)
      -- A tag is left only if it can be closed.
      | last :: others =>
        close last
        pure others
    else
      let style ← (Style.canonical closed.trim).mapError .badColor
      match opened.find? fun tag => tag.style == style with
      | some tag =>
        close tag
        pure (opened.eraseP fun tag => tag.style == style)
      | none => throw (.unmatched content position)

/-- The tags that are open behind some pieces. -/
def openAfter : List Opened → List Piece → Except Fault (List Opened)
  | opened, [] => .ok opened
  | opened, .shown _ :: later => openAfter opened later
  | opened, .tag position content :: later => do
    openAfter (← enter opened position content) later

/-- What a text shows, if its closing tags all close something. -/
def shown (t : Text) : Except Fault Text :=
  (openAfter [] (pieces t)).map fun _ => plain t

end DocScribe.Markup
