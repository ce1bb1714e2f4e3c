import DocScribe.Json.Reader
import DocScribe.Pairs
import DocScribe.Text.Blank

/-!
# `DocScribe.Settings.Dotfile`: variables in a file

A file beside the sources may set variables: a name, an equals sign
and a value to a line. Names and values may be quoted, `export` may
stand in front, and a comment behind. A value may name variables that
are set already, by the file or by the environment, and say what is
meant if they are not. A line that cannot be read is passed over.
-/

set_option autoImplicit false

namespace DocScribe.Dotfile

/-- The blanks within a line. -/
def isGap (c : CodePoint) : Bool :=
  c.isBlank && c != .lineFeed && c != .carriageReturn

def isLineEnd (c : CodePoint) : Bool :=
  c == .lineFeed || c == .carriageReturn

/-- What follows the blanks within a line. -/
def skipGap (t : Text) : Text :=
  t.dropWhile isGap

/-- What is left of the line is dropped with its end. -/
def skipLine (t : Text) : Text :=
  (t.dropWhile fun c => !isLineEnd c).drop 1

/-! ### Lines -/

/-- What follows the word `export` and blanks, if it is there. -/
def afterExport (t : Text) : Text :=
  match Text.after? "export" t with
  | some (c :: rest) => if isGap c then skipGap rest else t
  | _ => t

/-- The name at the front: between apostrophes, or up to a blank, an
equals sign or a comment. A comment takes the place of a name. -/
def name? (t : Text) : Option (Option Text × Text) :=
  match t with
  | [] => none
  | c :: rest =>
    if c = '#' then some (none, t)
    else if c = .apostrophe then
      match Text.cutAt .apostrophe rest with
      | (d :: name, some after) => some (some (d :: name), after)
      | _ => none
    else
      let isPlain (d : CodePoint) := d != '=' && d != '#' && !d.isBlank
      match t.takeWhile isPlain with
      | [] => none
      | name => some (some name, t.dropWhile isPlain)

/-- What stands up to a closing mark, and what follows it. A backslash
takes what is next along with it. -/
def untilMark? (mark : CodePoint) : Text → Option (Text × Text)
  | [] => none
  | c :: rest =>
    if c = mark then some ([], rest)
    else if c = .backslash then
      match rest with
      | [] => none
      | d :: after => (untilMark? mark after).map fun found => (c :: d :: found.1, found.2)
    else (untilMark? mark rest).map fun found => (c :: found.1, found.2)

/-- The escapes between apostrophes. -/
def simpleEscape? (c : CodePoint) : Option CodePoint :=
  if c = .backslash ∨ c = .apostrophe then some c else none

/-- The escapes between double marks. -/
def fullEscape? (c : CodePoint) : Option CodePoint :=
  if c = .backslash ∨ c = .apostrophe ∨ c = .quoteSign then some c
  else if c = 'a' then some .bell
  else if c = 'b' then some .backspace
  else if c = 'f' then some .formFeed
  else if c = 'n' then some .lineFeed
  else if c = 'r' then some .carriageReturn
  else if c = 't' then some '\t'
  else if c = 'v' then some .verticalTab
  else none

/-- A text with its escapes replaced. -/
def unescape (escape? : CodePoint → Option CodePoint) : Text → Text
  | [] => []
  | c :: rest =>
    if c = .backslash then
      match rest with
      | [] => [c]
      | d :: after =>
        match escape? d with
        | some e => e :: unescape escape? after
        | none => c :: unescape escape? (d :: after)
    else c :: unescape escape? rest

/-- An unquoted value without a comment, which begins after a
blank. -/
def withoutComment : Text → Text
  | [] => []
  | c :: rest =>
    if c.isBlank ∧ (rest.dropWhile CodePoint.isBlank).head? = some (CodePoint.ofChar '#') then []
    else c :: withoutComment rest

/-- The value at the front. -/
def value? (t : Text) : Option (Text × Text) :=
  match t with
  | [] => some ([], [])
  | c :: rest =>
    if c = .apostrophe then
      (untilMark? .apostrophe rest).map fun found => (unescape simpleEscape? found.1, found.2)
    else if c = .quoteSign then
      (untilMark? .quoteSign rest).map fun found => (unescape fullEscape? found.1, found.2)
    else if isLineEnd c then some ([], t)
    else
      let held := t.takeWhile fun d => !isLineEnd d
      some ((withoutComment held).trimEnd, t.drop held.length)

/-- What follows a comment and the end of the line. -/
def lineEnd? (t : Text) : Option Text :=
  let rest := skipGap t
  let behind :=
    match rest with
    | c :: _ => if c = '#' then rest.dropWhile fun d => !isLineEnd d else rest
    | [] => rest
  match behind with
  | [] => some []
  | c :: after =>
    if c = .lineFeed then some after
    else if c = .carriageReturn then
      match after with
      | d :: after' => if d = .lineFeed then some after' else some after
      | [] => some []
    else none

/-- A name with its value, if it has one. -/
abbrev Binding := Text × Option Text

/-- Whether blanks and a comment are next. -/
def beginsComment (t : Text) : Bool :=
  (t.head?.any isGap) && (skipGap t).head? == some (CodePoint.ofChar '#')

/-- The value behind an equals sign, if there is one; on failure what
is left. A comment may take the place of the value. -/
def assigned (t : Text) : Except Text (Option Text × Text) :=
  match Text.after? "=" t with
  | none => .ok (none, t)
  | some rest =>
    if beginsComment rest then .ok (some [], rest)
    else
      match value? (skipGap rest) with
      | some (value, after) => .ok (some value, after)
      | none => .error (skipGap rest)

/-- The statement at the front, if it binds a name; on failure what is
left of it. -/
def binding (t : Text) : Except Text (Option Binding × Text) := do
  let start := afterExport t
  match name? start with
  | none => throw start
  | some (name, rest) =>
    let (value, rest) ← assigned (skipGap rest)
    match lineEnd? rest with
    | none => throw rest
    | some after => pure (name.map fun n => (n, value), after)

/-- The bindings from here on, at most `fuel` statements. -/
def bindingsFrom : Nat → Text → List Binding
  | 0, _ => []
  | fuel + 1, t =>
    match t.dropWhile CodePoint.isBlank with
    | [] => []
    | c :: rest =>
      match binding (c :: rest) with
      | .ok (found, after) => found.toList ++ bindingsFrom fuel after
      -- What cannot be read is dropped to the end of the line in which reading stopped.
      | .error left => bindingsFrom fuel (skipLine left)

/-- The bindings of a file, in the order of its lines. -/
def bindings (t : Text) : List Binding :=
  let lines := (Text.after? [.byteOrderMark] t).getD t
  bindingsFrom (lines.length + 1) lines

/-! ### Variables in values -/

/-- A variable in braces behind a dollar sign: its name, what is meant
if it is not set, and what follows. -/
def reference? (t : Text) : Option (Text × Text × Text) := do
  let behind : Text ← Text.after? "$\x7b" t
  let name : Text := behind.takeWhile fun c => c != '\x7d' && c != ':'
  match behind.drop name.length with
  | [] => none
  | c :: rest =>
    if c = '\x7d' then some (name, [], rest)
    else
      let rest ← Text.after? "-" rest
      match Text.cutAt '\x7d' rest with
      | (default, some after) => some (name, default, after)
      | _ => none

/-- A value with the variables in it replaced, `fuel` code points
far. -/
def expand (look : Text → Option Text) : Nat → Text → Text
  | 0, t => t
  | _, [] => []
  | fuel + 1, c :: rest =>
    match reference? (c :: rest) with
    -- What a variable holds is not read again.
    | some (name, default, after) => (look name).getD default ++ expand look fuel after
    | none => c :: expand look fuel rest

/-- What a name stands for: the file comes before the environment. A
name that the file leaves without a value stands for nothing. -/
def lookUp (environment : List (Text × Text)) (settled : List Binding) (name : Text) :
    Option Text :=
  match settled.lookup name with
  | some value => some (value.getD [])
  | none => environment.lookup name

/-- Bindings with the variables in their values replaced, each by what
is set before it. A repeated name keeps its first place and takes its
last value. -/
def settle (environment : List (Text × Text)) (settled : List Binding) :
    List Binding → List Binding
  | [] => settled
  | (name, value) :: rest =>
    let expanded := value.map fun t => expand (lookUp environment settled) t.length t
    settle environment (PairsView.putNamed settled name expanded) rest

/-- The variables that a file sets. -/
def settledBindings (environment : List (Text × Text)) (t : Text) : List Binding :=
  settle environment [] (bindings t)

end DocScribe.Dotfile
