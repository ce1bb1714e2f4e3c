import DocScribe.Text.Basic
import DocScribe.Decimal.Double

/-!
# `DocScribe.Json.Basic`: JSON values

JSON values with the distinctions that the text form makes: integers
of any size apart from doubles, and objects as lists of members in
their written order. An object that was read has each key once
(`Json.ofMembers`): a repeated key keeps its first place and takes its
last value.
-/

set_option autoImplicit false

namespace DocScribe

inductive Json where
  | null
  | bool (b : Bool)
  | int (n : Int)
  | float (x : Double)
  | str (t : Text)
  | arr (items : List Json)
  | obj (members : List (Text × Json))

namespace Json

instance : Inhabited Json := ⟨.null⟩

/-- The members of an object. -/
abbrev Members := List (Text × Json)

/-- The value of a key. -/
def Members.get? (members : Members) (key : Text) : Option Json :=
  (members.find? fun m => m.1 == key).map (·.2)

/-- Whether a key is present. -/
def Members.has (members : Members) (key : Text) : Bool :=
  members.any fun m => m.1 == key

/-- Give a key a value: in its place if it is present, else at the
end. -/
def Members.put (members : Members) (key : Text) (value : Json) : Members :=
  if members.has key then members.map fun m => if m.1 == key then (m.1, value) else m
  else members ++ [(key, value)]

/-- Without a key. -/
def Members.without (members : Members) (key : Text) : Members :=
  members.filter fun m => m.1 != key

/-- Members as they count when all are written one after the other. -/
def ofMembers (written : Members) : Members :=
  written.foldl (fun members m => members.put m.1 m.2) []

/-- Whether the value is `null`. -/
def isNull : Json → Bool
  | .null => true
  | _ => false

/-- Whether the value counts as true where a flag is wanted: not
`null`, `false`, zero or empty. -/
def isTruthy : Json → Bool
  | .null => false
  | .bool b => b
  | .int n => n != 0
  | .float x => !x.isZero
  | .str t => !t.isEmpty
  | .arr items => !items.isEmpty
  | .obj members => !members.isEmpty

/-- How many digits an integer may have, where it is read and where it
is written. -/
def digitLimit : Nat := 4300

mutual

/-- Whether a value can be written: no integer in it, at any depth, has
more digits than the limit. -/
def isWritable : Json → Bool
  | .int n => (Text.ofNat n.natAbs).length ≤ digitLimit
  | .arr items => areWritable items
  | .obj members => areWritableMembers members
  | _ => true

/-- Whether all items of an array can be written. -/
def areWritable : List Json → Bool
  | [] => true
  | item :: items => isWritable item && areWritable items

/-- Whether the values of all members can be written. -/
def areWritableMembers : List (Text × Json) → Bool
  | [] => true
  | (_, value) :: members => isWritable value && areWritableMembers members

end

end Json

end DocScribe
