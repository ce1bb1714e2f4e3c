import DocScribe.Json.Basic
import DocScribe.Decimal.Notation
import DocScribe.Text.Quoted

/-!
# `DocScribe.Json.Writer`: JSON text of a value

A style fixes the two choices of the written form: whether everything
outside printable ASCII is escaped, and whether containers are spread
over lines and by how much an inner level is indented.
-/

set_option autoImplicit false

namespace DocScribe.Json

/-- How a value is written. Without an indentation it takes one line,
with a space behind each comma and colon. -/
structure Style where
  escapesAll : Bool
  indent : Option Int
deriving DecidableEq, Repr

namespace Style

/-- One line of printable ASCII. -/
def oneLine : Style := ⟨true, none⟩

end Style

/-- The four digits behind `\u`. -/
def unitEscape (n : Nat) : Text :=
  "\\u" ++ Text.hex 4 n

/-- A code point by its number; beyond four digits as a pair of
surrogates. -/
def numberEscape (c : CodePoint) : Text :=
  if c.val < 0x10000 then unitEscape c.val
  else
    unitEscape (0xD800 + (c.val - 0x10000) / 0x400)
      ++ unitEscape (0xDC00 + (c.val - 0x10000) % 0x400)

/-- A code point inside a string. -/
def stringChar (escapesAll : Bool) (c : CodePoint) : Text :=
  if c = .quoteSign ∨ c = .backslash then [.backslash, c]
  else if c = .lineFeed then "\\n"
  else if c = .carriageReturn then "\\r"
  else if c = '\t' then "\\t"
  else if c.val = 0x08 then "\\b"
  else if c.val = 0x0C then "\\f"
  else if c.val < 0x20 ∨ (escapesAll ∧ 0x7E < c.val) then numberEscape c
  else [c]

/-- A string with its marks. -/
def writeString (escapesAll : Bool) (t : Text) : Text :=
  .quoteSign :: t.flatMap (stringChar escapesAll) ++ [.quoteSign]

/-- A double with the fewest digits that read back. -/
def writeDouble (x : Double) : Text :=
  x.writeWith (fun m => DecimalLayout.ofValues.write m.shortest) "Infinity" "NaN"

/-- The line break before something on a level, or nothing if the
value takes one line. -/
def Style.break (style : Style) (level : Nat) : Text :=
  match style.indent with
  | none => []
  | some n => .lineFeed :: List.replicate (n.toNat * level) (CodePoint.ofChar ' ')

/-- What stands between two parts of a container. -/
def Style.between (style : Style) (level : Nat) : Text :=
  match style.indent with
  | none => ", "
  | some _ => CodePoint.ofChar ',' :: style.break level

/-- The parts of a container between its marks; nothing stands
between the marks of an empty one. -/
def Style.enclose (style : Style) (level : Nat) (opening closing : CodePoint)
    (parts : List Text) : Text :=
  if parts.isEmpty then [opening, closing]
  else
    opening :: style.break (level + 1) ++ Text.joinWith (style.between (level + 1)) parts
      ++ style.break level ++ [closing]

mutual

/-- The text of a value whose surroundings are on `level`. -/
def writeAt (style : Style) (level : Nat) : Json → Text
  | .null => "null"
  | .bool true => "true"
  | .bool false => "false"
  | .int n => Text.ofInt n
  | .float x => writeDouble x
  | .str t => writeString style.escapesAll t
  | .arr items => style.enclose level '[' ']' (writeItems style (level + 1) items)
  | .obj members => style.enclose level '\x7b' '\x7d' (writeMembers style (level + 1) members)

/-- The texts of the items of an array. -/
def writeItems (style : Style) (level : Nat) : List Json → List Text
  | [] => []
  | item :: items => writeAt style level item :: writeItems style level items

/-- The texts of the members of an object. -/
def writeMembers (style : Style) (level : Nat) : List (Text × Json) → List Text
  | [] => []
  | (key, value) :: members =>
    (writeString style.escapesAll key ++ ": " ++ writeAt style level value)
      :: writeMembers style level members

end

/-- The text of a value. -/
def write (style : Style) (value : Json) : Text :=
  writeAt style 0 value

end DocScribe.Json
