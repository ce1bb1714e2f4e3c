import DocScribe.Terminal.ColorTable
import DocScribe.Text.Blank
import DocScribe.Text.LetterCase
import DocScribe.Text.Numeral

/-!
# `DocScribe.Terminal.Style`: the styles that tags name

A style is spelled in words: attributes such as `bold`, which `not`
takes away, a color, a color behind `on`, and an address behind
`link`. Many spellings mean the same style, so each style has one form
that it is known by. Words that spell no style are a name of their
own.
-/

set_option autoImplicit false

namespace DocScribe

/-- What a text looks like. Attributes that are not mentioned are left
as they are. -/
structure Style where
  attributes : List (Text × Bool)
  color : Option Text
  background : Option Text
  link : Option Text
deriving DecidableEq

namespace Style

/-- The style that mentions nothing. -/
def plain : Style := ⟨[], none, none, none⟩

/-- The attributes in the order in which they are written, each with
its short name if it has one. -/
def attributeNames : List (Text × Option Text) :=
  [("bold", some "b"), ("dim", some "d"), ("italic", some "i"), ("underline", some "u"),
    ("blink", none), ("blink2", none), ("reverse", some "r"), ("conceal", some "c"),
    ("strike", some "s"), ("underline2", some "uu"), ("frame", none), ("encircle", none),
    ("overline", some "o")]

/-- The attribute that a word names. -/
def attribute? (word : Text) : Option Text :=
  (attributeNames.find? fun entry => entry.1 == word || entry.2 == some word).map (·.1)

/-! ### Colors -/

/-- What stands between a beginning and a closing parenthesis. -/
def between? (beginning word : Text) : Option Text :=
  match Text.after? beginning word with
  | some rest => if rest.getLast? = some (CodePoint.ofChar ')') then some rest.dropLast else none
  | none => none

/-- Why a color cannot be read at all. -/
inductive Fault where
  /-- a part of it is empty -/
  | noNumber
  /-- a part of it has too many digits -/
  | tooLong (digits : Nat)
deriving DecidableEq, Repr

def Fault.message : Fault → Text
  | .noNumber => "invalid literal for int() with base 10: ''"
  | .tooLong digits =>
    "Exceeds the limit (4300 digits) for integer string conversion: value has "
      ++ Text.ofNat digits ++ " digits; use sys.set_int_max_str_digits() to increase the limit"

/-- The most digits of a number. -/
def digitLimit : Nat := 4300

/-- Whether a text is a number of a byte, if it is a number. -/
def isByte (t : Text) : Except Fault Bool :=
  if t.isEmpty then .error .noNumber
  else if digitLimit < t.length then .error (.tooLong t.length)
  else .ok (Text.digitsValue t.withAsciiDigits ≤ 255)

/-- Whether every part of a color is the number of a byte. -/
def areBytes (parts : List Text) : Except Fault Bool := do
  pure ((← parts.mapM isByte).all id)

/-- Whether a word is a color by its number: six hexadecimal digits,
the number of a terminal's color, or three parts. -/
def isNumbered (word : Text) : Except Fault Bool :=
  -- At most one of the three is there, as they differ in how they begin.
  match Text.after? "#" word, between? "color(" word, between? "rgb(" word with
  | some digits, _, _ => .ok (digits.length = 6 && digits.all fun c => c.hexValue?.isSome)
  | _, some n, _ =>
    if 0 < n.length && n.length ≤ 3 && n.all CodePoint.isDigit then isByte n else .ok false
  | _, _, some parts =>
    let each := Text.splitOn ',' parts
    if each.length = 3 && each.all (·.all fun c => c.decimal?.isSome) then areBytes each
    else .ok false
  | _, _, _ => .ok false

/-- The color that a word names, by its name in small letters. -/
def color? (word : Text) : Except Fault (Option Text) := do
  let name := word.toSmall
  if name = "default" || ColorTable.names.contains name.toString then pure (some name)
  else if ← isNumbered name then pure (some name)
  else pure none

/-! ### Words -/

/-- A style with one more attribute; the last word on it counts. -/
def withAttribute (s : Style) (name : Text) (value : Bool) : Style :=
  { s with attributes := s.attributes.filter (fun a => a.1 != name) ++ [(name, value)] }

/-- The style that words spell on top of another, if they spell
one. -/
def ofWords : Style → List Text → Except Fault (Option Style)
  | s, [] => .ok (some s)
  -- Behind the last word nothing is left for `on`, `not` and `link`, which name no color either.
  | s, [word] =>
    match attribute? word.toSmall with
    | some name => .ok (some (s.withAttribute name true))
    | none => (color? word).map fun found => found.map fun color => { s with color := some color }
  | s, word :: next :: words =>
    let name := word.toSmall
    if name = "on" then
      match color? next with
      | .ok (some color) => ofWords { s with background := some color } words
      | .ok none => .ok none
      | .error fault => .error fault
    else if name = "not" then
      match attribute? next with
      | some found => ofWords (s.withAttribute found false) words
      | none => .ok none
    else if name = "link" then ofWords { s with link := some next } words
    else
      match attribute? name with
      | some found => ofWords (s.withAttribute found true) (next :: words)
      | none =>
        match color? word with
        | .ok (some color) => ofWords { s with color := some color } (next :: words)
        | .ok none => .ok none
        | .error fault => .error fault
termination_by _ words => words.length

/-- The words of a text, with blanks between them. -/
def wordsFrom (word : Text) : Text → List Text
  | [] => if word.isEmpty then [] else [word.reverse]
  | c :: rest =>
    if c.isBlank then
      if word.isEmpty then wordsFrom [] rest else word.reverse :: wordsFrom [] rest
    else wordsFrom (c :: word) rest

/-- What is written of the attributes. -/
def attributeTexts (s : Style) : List Text :=
  attributeNames.filterMap fun entry =>
    (s.attributes.lookup entry.1).map fun isSet =>
      if isSet then entry.1 else "not " ++ entry.1

/-- The form that a style is known by. -/
def toText (s : Style) : Text :=
  let parts := s.attributeTexts ++ s.color.toList
    ++ (match s.background with
      | some color => ["on", color]
      | none => [])
    ++ (match s.link with
      | some address => ["link", address]
      | none => [])
  if parts.isEmpty then "none" else Text.joinWith " " parts

/-- The one name of a style that a text spells, or of the text itself
if it spells none. -/
def canonical (t : Text) : Except Fault Text :=
  if t.trim = "none" then .ok "none"
  else
    (ofWords plain (wordsFrom [] t)).map fun found =>
      match found with
      | some style => style.toText
      | none => t.trim.toSmall

end Style

end DocScribe
