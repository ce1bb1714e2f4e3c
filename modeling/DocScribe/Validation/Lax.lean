import DocScribe.Json.Basic
import DocScribe.Validation.Spelled

/-!
# `DocScribe.Validation.Lax`: reading typed fields from loose values

Settings come from JSON, from configuration files and from variables
that hold text only. A field takes any value that stands for one of
its type without loss: a number written as text, a flag written as a
word or as zero and one, a whole number written with a point.

`Loose` is the view of a value that this needs; what a source has
beyond it (dates, tables) fits no field, and little is seen of it.
-/

set_option autoImplicit false

namespace DocScribe

/-- A value as the fields of a settings record see it. Of a date or a
time it is seen what kind it is. -/
inductive Loose where
  | null
  | bool (b : Bool)
  | int (n : Int)
  | float (x : Double)
  | text (t : Text)
  | list (items : List Loose)
  | table (members : List (Text × Loose))
  | moment (kind : Text)

instance : Inhabited Loose := ⟨.null⟩

mutual

/-- The loose view of a JSON value. -/
def Json.toLoose : Json → Loose
  | .null => .null
  | .bool b => .bool b
  | .int n => .int n
  | .float x => .float x
  | .str t => .text t
  | .arr items => .list (Json.toLooseList items)
  | .obj members => .table (Json.toLooseMembers members)

/-- The loose views of the items of an array. -/
def Json.toLooseList : List Json → List Loose
  | [] => []
  | item :: items => Json.toLoose item :: Json.toLooseList items

/-- The loose views of the members of an object. -/
def Json.toLooseMembers : List (Text × Json) → List (Text × Loose)
  | [] => []
  | (key, value) :: members => (key, Json.toLoose value) :: Json.toLooseMembers members

end

/-- What the type of a value is called. -/
def Loose.typeName : Loose → Text
  | .null => "NoneType"
  | .bool _ => "bool"
  | .int _ => "int"
  | .float _ => "float"
  | .text _ => "str"
  | .list _ => "list"
  | .table _ => "dict"
  | .moment kind => kind

/-- Whether a value counts as true where a flag is wanted. -/
def Loose.isTruthy : Loose → Bool
  | .null => false
  | .bool b => b
  | .int n => n != 0
  | .float x => !x.isZero
  | .text t => !t.isEmpty
  | .list items => !items.isEmpty
  | .table members => !members.isEmpty
  | .moment _ => true

namespace Lax

/-! ### Fields -/

/-- The words for true. -/
def trueWords : List Text := ["true", "t", "yes", "y", "on", "1"]

/-- The words for false. -/
def falseWords : List Text := ["false", "f", "no", "n", "off", "0"]

/-- A field of text takes text. -/
def text : Loose → Except IssueKind Text
  | .text t => .ok t
  | _ => .error .notText

/-- The first integer that has no room in a word of 64 bits. -/
abbrev wordLimit : Int := 9223372036854775808

/-- The flag that an integer is. -/
def flagOfInt (n : Int) : Except IssueKind Bool :=
  if n = 0 then .ok false
  else if n = 1 then .ok true
  else if -wordLimit ≤ n ∧ n < wordLimit then .error .unreadableFlag
  else .error .notFlag

/-- Whether an integer that was written with a point has room in a
word; neither limit has. -/
def fitsWord (n : Int) : Bool :=
  -wordLimit < n && n < wordLimit

/-- The flag that a word is, in letters of any case. -/
def flagOfText (t : Text) : Except IssueKind Bool := do
  Spelled.checked t
  let word := t.toSmall
  if trueWords.contains word then pure true
  else if falseWords.contains word then pure false
  else throw .unreadableFlag

/-- A flag takes zero, one and the words for both. -/
def flag : Loose → Except IssueKind Bool
  | .bool b => .ok b
  | .int n => flagOfInt n
  | .float x =>
    match x.toInt? with
    | some n => if fitsWord n then flagOfInt n else .error .notFlag
    | none => .error .notFlag
  | .text t => flagOfText t
  | _ => .error .notFlag

/-- An integer field takes whole numbers, flags, and text that spells
an integer. A whole number with a point has to have room in a word. -/
def integer : Loose → Except IssueKind Int
  | .bool b => .ok (if b then 1 else 0)
  | .int n => .ok n
  | .float x =>
    if !x.isFinite then .error .notFinite
    else
      match x.toInt? with
      | some n => if fitsWord n then .ok n else .error .integerTooLong
      | none => .error .fractionalInteger
  | .text t => Spelled.integer t
  | _ => .error .notInteger

/-- The double that an integer rounds to; one that is too large is no
number here. -/
def numberOfInt (n : Int) : Except IssueKind Double :=
  let x := Double.ofInt n
  if x.isFinite then .ok x else .error .notNumber

/-- A number field takes numbers, flags, and text that spells a
number. -/
def number : Loose → Except IssueKind Double
  | .bool b => numberOfInt (if b then 1 else 0)
  | .int n => numberOfInt n
  | .float x => .ok x
  | .text t => Spelled.number t
  | _ => .error .notNumber

/-- An optional field takes `null` for no value. -/
def optional {α : Type} (field : Loose → Except IssueKind α) : Loose → Except IssueKind (Option α)
  | .null => .ok none
  | value => (field value).map some

/-- A sampling temperature is between zero and one. Not-a-number fails
the upper bound, which is looked at first. -/
def temperature (value : Loose) : Except IssueKind Double := do
  let x ← number value
  if !x.isAtMostOne then throw (.notAtMost 1)
  if !x.isNonnegative then throw (.notAtLeast 0)
  pure x

/-- A count is positive. -/
def positiveInteger (value : Loose) : Except IssueKind Int := do
  let n ← integer value
  if n ≤ 0 then throw (.notGreater 0)
  pure n

/-- An integer between two bounds; the upper one is looked at
first. -/
def integerBetween (low high : Nat) (value : Loose) : Except IssueKind Int := do
  let n ← integer value
  if (high : Int) < n then throw (.notAtMost high)
  if n < (low : Int) then throw (.notAtLeast low)
  pure n

/-- A duration is positive. -/
def positiveNumber (value : Loose) : Except IssueKind Double := do
  let x ← number value
  if !x.isPositive then throw (.notGreater 0)
  pure x

end Lax

end DocScribe
