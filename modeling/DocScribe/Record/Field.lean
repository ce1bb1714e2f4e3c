import DocScribe.Record.Label
import DocScribe.Validation.Checked

/-!
# `DocScribe.Record.Field`: records read in two stages

A record is read from the members of an object in two stages. First
`null` is dropped and the value of every field is brought towards the
field's type, or dropped as well. If one of the values cannot be
converted the record as a whole is refused, with one issue at its own
place. Then every field is checked strictly: what is not of its type
is an issue at its place, and what is absent takes the default. An
object in the place of a nested record goes through both stages when
its field is checked.

A record type lists its fields once; both stages are read off the
list.
-/

set_option autoImplicit false

namespace DocScribe

/-- How a field is brought towards its type: a value to stand in its
place, or none if it is dropped, unless the conversion fails. -/
abbrev Coercion := Json → Except IssueKind (Option Json)

/-- A type of fields with values in `α`. -/
structure FieldType (α : Type) where
  /-- the value brought towards the type -/
  coerce : Coercion
  /-- the value of the type, or what is wrong at its place -/
  check : List Place → Json → Checked α

/-- The fields of a record: how each is brought towards its type, and
how the record is built from members after that. -/
structure Fields (α : Type) where
  coercions : List (Label × Coercion)
  check : List Place → Json.Members → Checked α

namespace Fields

variable {α β : Type}

def map (f : α → β) (fields : Fields α) : Fields β :=
  ⟨fields.coercions, fun place members => (fields.check place members).map f⟩

/-- Fields behind others: each stage goes through them in order. -/
def app (f : Fields (α → β)) (a : Fields α) : Fields β :=
  ⟨f.coercions ++ a.coercions, fun place members =>
    (f.check place members).app (a.check place members)⟩

instance : Applicative Fields where
  pure a := ⟨[], fun _ _ => .ok a⟩
  map := map
  seq f a := app f (a ())

end Fields

/-- A single field with the value that it has if absent. -/
def Label.field {α : Type} (l : Label) (type : FieldType α) (default : α) : Fields α where
  coercions := [(l, type.coerce)]
  check place members :=
    match l.locate? members with
    | none => .ok default
    | some (spelling, value) => type.check (place ++ [.key spelling]) value

/-! ### The first stage -/

/-- The value under one spelling brought towards its type. -/
def settleSpelling (coerce : Coercion) (members : Json.Members) (spelling : Text) :
    Except IssueKind Json.Members :=
  match members.get? spelling with
  | none => .ok members
  | some value =>
    (coerce value).map fun
      | some value' => members.put spelling value'
      -- A value that stands for nothing is dropped, and the field takes its default later.
      | none => members.without spelling

/-- A field brought towards its type under all of its spellings. -/
def settleField (members : Json.Members) (field : Label × Coercion) :
    Except IssueKind Json.Members :=
  field.1.spellings.foldlM (settleSpelling field.2) members

/-- Members without `null`, each field brought towards its type. -/
def settle (coercions : List (Label × Coercion)) (members : Json.Members) :
    Except IssueKind Json.Members :=
  coercions.foldlM settleField (members.filter fun m => !m.2.isNull)

/-! ### Records -/

/-- A type of records: the name that a refused value is reported
under, and the fields. -/
structure RecordType (α : Type) where
  title : Text
  fields : Fields α

namespace RecordType

variable {α : Type}

/-- The record that members hold. A failure of the first stage is an
issue of the record itself, and its fields are not looked at. -/
def ofMembers (r : RecordType α) (place : List Place) (members : Json.Members) : Checked α :=
  match settle r.fields.coercions members with
  | .ok settled => r.fields.check place settled
  | .error kind => .bad [⟨kind, place⟩]

/-- The record that a value holds. What is no object is refused. -/
def check (r : RecordType α) (place : List Place) : Json → Checked α
  | .obj members => r.ofMembers place members
  | _ => .bad [⟨.notRecord r.title, place⟩]

/-- A record from a JSON value by itself. -/
def ofJson (r : RecordType α) (value : Json) : Except Rejection α :=
  (r.check [] value).toExcept r.title

end RecordType

end DocScribe
