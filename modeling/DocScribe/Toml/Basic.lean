import DocScribe.Pairs
import DocScribe.Validation.Lax

/-!
# `DocScribe.Toml.Basic`: values of configuration files

Configuration files hold the values of JSON but `null`, and moments
besides: dates, times of day, and both together. A moment is kept as
the text that shows it and, if it has an offset, as an instant of
universal time; no setting is one.
-/

set_option autoImplicit false

namespace DocScribe

/-- What a moment of a configuration file says. -/
inductive MomentKind where
  | date
  | time
  | both
deriving DecidableEq, Repr

/-- What a moment is called. -/
def MomentKind.typeName : MomentKind → Text
  | .date => "datetime.date"
  | .time => "datetime.time"
  | .both => "datetime.datetime"

/-- A value of a configuration file. -/
inductive Toml where
  | bool (b : Bool)
  | int (n : Int)
  | float (x : Double)
  | text (t : Text)
  | moment (kind : MomentKind) (shown : Text) (instant : Option Int)
  | list (items : List Toml)
  | table (members : List (Text × Toml))

namespace Toml

instance : Inhabited Toml := ⟨.bool false⟩

/-- The members of a table. -/
abbrev Members := List (Text × Toml)

/-- The value of a key. -/
def Members.get? (members : Members) (key : Text) : Option Toml :=
  (members.find? fun m => m.1 == key).map (·.2)

/-- Whether a key is present. -/
def Members.has (members : Members) (key : Text) : Bool :=
  members.any fun m => m.1 == key

/-- Give a key a value: in its place if it is present, else at the
end. -/
def Members.put (members : Members) (key : Text) (value : Toml) : Members :=
  PairsView.putNamed members key value

mutual

/-- The loose view of a value. -/
def toLoose : Toml → Loose
  | .bool b => .bool b
  | .int n => .int n
  | .float x => .float x
  | .text t => .text t
  | .moment kind _ _ => .moment kind.typeName
  | .list items => .list (toLooseList items)
  | .table members => .table (toLooseMembers members)

/-- The loose views of the items of a list. -/
def toLooseList : List Toml → List Loose
  | [] => []
  | item :: items => toLoose item :: toLooseList items

/-- The loose views of the members of a table. -/
def toLooseMembers : List (Text × Toml) → List (Text × Loose)
  | [] => []
  | (key, value) :: members => (key, toLoose value) :: toLooseMembers members

end

mutual

/-- A value in JSON, where moments are the texts that show them. -/
def toJson : Toml → Json
  | .bool b => .bool b
  | .int n => .int n
  | .float x => .float x
  | .text t => .str t
  | .moment _ shown _ => .str shown
  | .list items => .arr (toJsonList items)
  | .table members => .obj (toJsonMembers members)

def toJsonList : List Toml → List Json
  | [] => []
  | item :: items => toJson item :: toJsonList items

def toJsonMembers : List (Text × Toml) → List (Text × Json)
  | [] => []
  | (key, value) :: members => (key, toJson value) :: toJsonMembers members

end

/-- What the type of a value is called. -/
def typeName : Toml → Text
  | .bool _ => "bool"
  | .int _ => "int"
  | .float _ => "float"
  | .text _ => "str"
  | .moment kind _ _ => kind.typeName
  | .list _ => "list"
  | .table _ => "dict"

/-- The value as a key, if it can be one. Not-a-number is another key
each time it is written. -/
def key? : Toml → Option PairsKey
  | .text t => some (.ofText t)
  | .bool b => some ⟨if b then "True" else "False", .ofBool b⟩
  | .int n => some ⟨Text.ofInt n, .whole n⟩
  | .float .nan => some ⟨Double.nan.toText, .unlike⟩
  | .float x => some ⟨x.toText, .ofDouble x⟩
  | .moment _ shown none => some ⟨shown, .moment shown⟩
  | .moment _ shown (some instant) => some ⟨shown, .instant instant⟩
  | .list _ => none
  | .table _ => none

/-- Values of configuration files as tables and sequences. -/
def pairsView : PairsView Toml where
  members?
    | .table members => some members
    | _ => none
  items?
    | .text t => some (t.map fun c => .text [c])
    | .list items => some items
    | .table members => some (members.map fun m => .text m.1)
    | _ => none
  key? := key?
  typeName := typeName

/-- The entries that a value has or spells in pairs. -/
def toEntries (value : Toml) : Except PairsError (List (PairsKey × Toml)) :=
  pairsView.table value

/-- Entries by the text of their keys; of keys that are written alike
the last one counts. -/
def byWritten (entries : List (PairsKey × Toml)) : Members :=
  entries.foldl (fun members e => members.put e.1.written e.2) []

end Toml

end DocScribe
