import DocScribe.Decimal.Notation
import DocScribe.Json.Basic
import DocScribe.Text.Quoted

/-!
# `DocScribe.Json.Display`: values in messages and tables

Where a value is shown to a person, text stands as it is and the other
values are spelled in words and brackets; text inside a container is
quoted.
-/

set_option autoImplicit false

namespace DocScribe.Json

mutual

/-- A value inside a container. -/
def displayInner : Json → Text
  | .null => "None"
  | .bool true => "True"
  | .bool false => "False"
  | .int n => Text.ofInt n
  | .float x => x.toText
  | .str t => t.quoted
  | .arr items => "[" ++ Text.joinWith ", " (displayItems items) ++ "]"
  | .obj members => "\x7b" ++ Text.joinWith ", " (displayMembers members) ++ "\x7d"

def displayItems : List Json → List Text
  | [] => []
  | item :: items => displayInner item :: displayItems items

def displayMembers : List (Text × Json) → List Text
  | [] => []
  | (key, value) :: members =>
    (key.quoted ++ ": " ++ displayInner value) :: displayMembers members

end

/-- A value by itself. -/
def display : Json → Text
  | .str t => t
  | value => displayInner value

end DocScribe.Json
