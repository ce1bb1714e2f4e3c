import DocScribe.Json.Writer

/-!
# `DocScribe.Pairs`: tables written as pairs

Where a table is wanted, a sequence of pairs serves as well: each pair
is a key and its value, and a repeated key keeps its first place and
takes its last value. Pairs may be lists of two, texts of two
characters, or tables of two keys. The rule is the same for every kind
of data, so it is stated over a view of the values.

Keys need not be texts. Two keys are one if they are equal as values,
whatever their spelling: `1` is the same key as `1.0` and as `true`,
and another one than the text `"1"`.
-/

set_option autoImplicit false

namespace DocScribe

/-- Why a value is no table. -/
inductive PairsError where
  | notIterable (type : Text)
  | notSequence (index : Nat)
  | wrongLength (index length : Nat)
  | badKey (type : Text)
deriving DecidableEq

def PairsError.message : PairsError → Text
  | .notIterable type => "'" ++ type ++ "' object is not iterable"
  | .notSequence index =>
    "cannot convert dictionary update sequence element #" ++ Text.ofNat index ++ " to a sequence"
  | .wrongLength index length =>
    "dictionary update sequence element #" ++ Text.ofNat index ++ " has length "
      ++ Text.ofNat length ++ "; 2 is required"
  | .badKey type => "unhashable type: '" ++ type ++ "'"

/-- What makes two keys one. -/
inductive KeyIdentity where
  | text (t : Text)
  | nothing
  | whole (n : Int)
  | broken (x : Double)
  /-- a date or a time of day, by its text -/
  | moment (shown : Text)
  /-- a moment of universal time, in microseconds -/
  | instant (microseconds : Int)
  /-- a key that is no other, not even one written alike -/
  | unlike
deriving DecidableEq

namespace KeyIdentity

/-- The identity of a number: a whole one is an integer, however it is
written. -/
def ofDouble (x : Double) : KeyIdentity :=
  match x.toInt? with
  | some n => .whole n
  | none => .broken x

/-- A flag counts as a number. -/
def ofBool (b : Bool) : KeyIdentity :=
  .whole (if b then 1 else 0)

/-- Whether two keys are one. -/
def isSame (a b : KeyIdentity) : Bool :=
  a == b && a != .unlike

end KeyIdentity

/-- A key: how it is written, and what it is. -/
structure PairsKey where
  written : Text
  identity : KeyIdentity
deriving DecidableEq

namespace PairsKey

/-- A text as a key. -/
def ofText (t : Text) : PairsKey := ⟨t, .text t⟩

/-- Whether a key is a text. -/
def isText (key : PairsKey) : Bool :=
  match key.identity with
  | .text _ => true
  | _ => false

end PairsKey

/-- What the conversion asks of a value: its members if it is a table,
its items if it is a sequence of any kind, the key that it can be, and
what its type is called. -/
structure PairsView (α : Type) where
  members? : α → Option (List (Text × α))
  items? : α → Option (List α)
  key? : α → Option PairsKey
  typeName : α → Text

namespace PairsView

variable {α : Type} (view : PairsView α)

/-- Give a key a value: in its place if it is present, else at the
end. -/
def put {κ : Type} (isSame : κ → κ → Bool) (table : List (κ × α)) (key : κ) (value : α) :
    List (κ × α) :=
  if table.any fun m => isSame m.1 key then
    table.map fun m => if isSame m.1 key then (m.1, value) else m
  else table ++ [(key, value)]

/-- Give a name a value. -/
def putNamed (table : List (Text × α)) (name : Text) (value : α) : List (Text × α) :=
  put (· == ·) table name value

/-- The pairs from the `index`-th on, put into a table. -/
def fold (table : List (PairsKey × α)) (index : Nat) :
    List α → Except PairsError (List (PairsKey × α))
  | [] => .ok table
  | pair :: pairs =>
    match view.items? pair with
    | none => .error (.notSequence index)
    -- A pair is a sequence of two, whatever kind of value spells it.
    | some [first, second] =>
      match view.key? first with
      | none => .error (.badKey (view.typeName first))
      | some key =>
        fold (put (fun a b => a.identity.isSame b.identity) table key second) (index + 1) pairs
    | some items => .error (.wrongLength index items.length)

/-- The table that a value is or spells in pairs. -/
def table (value : α) : Except PairsError (List (PairsKey × α)) :=
  match view.members? value with
  | some members => .ok (members.map fun m => (.ofText m.1, m.2))
  | none =>
    match view.items? value with
    | none => .error (.notIterable (view.typeName value))
    | some items => view.fold [] 0 items

end PairsView

namespace Json

/-- What the type of a JSON value is called. -/
def typeName : Json → Text
  | .null => "NoneType"
  | .bool _ => "bool"
  | .int _ => "int"
  | .float _ => "float"
  | .str _ => "str"
  | .arr _ => "list"
  | .obj _ => "dict"

/-- What a value is as a key, if it can be one. -/
def identity? : Json → Option KeyIdentity
  | .null => some .nothing
  | .bool b => some (.ofBool b)
  | .int n => some (.whole n)
  | .float x => some (.ofDouble x)
  | .str t => some (.text t)
  | .arr _ => none
  | .obj _ => none

/-- JSON values as tables and sequences. -/
def pairsView : PairsView Json where
  members?
    | .obj members => some members
    | _ => none
  items?
    | .str t => some (t.map fun c => .str [c])
    | .arr items => some items
    | .obj members => some (members.map fun m => .str m.1)
    | _ => none
  key? value := value.identity?.map fun identity =>
    match identity with
    | .text t => .ofText t
    | identity => ⟨value.write .oneLine, identity⟩
  typeName := typeName

/-- The members that a JSON value is or spells in pairs. Keys that
differ may be written alike. -/
def toMembers (value : Json) : Except PairsError Members :=
  (pairsView.table value).map fun table => table.map fun m => (m.1.written, m.2)

end Json

end DocScribe
