import DocScribe.Validation.Lax

/-!
# `DocScribe.Validation.Checked`: reading a record field by field

A record is read as a whole: all of its fields are looked at, and the
issues of all of them are reported in field order. `Checked` is the
applicative that collects them.
-/

set_option autoImplicit false

namespace DocScribe

/-- A value, or everything that is wrong with it. -/
inductive Checked (α : Type) where
  | ok (value : α)
  | bad (issues : List Issue)

namespace Checked

variable {α β : Type}

def map (f : α → β) : Checked α → Checked β
  | .ok a => .ok (f a)
  | .bad issues => .bad issues

/-- A field behind others: issues are kept in order. -/
def app : Checked (α → β) → Checked α → Checked β
  | .ok f, .ok a => .ok (f a)
  | .ok _, .bad issues => .bad issues
  | .bad issues, .ok _ => .bad issues
  | .bad issues, .bad more => .bad (issues ++ more)

instance : Applicative Checked where
  pure := .ok
  map := map
  seq f a := app f (a ())

/-- One field, read at a place. -/
def ofField (place : List Place) : Except IssueKind α → Checked α
  | .ok a => .ok a
  | .error kind => .bad [⟨kind, place⟩]

/-- The record under its title. -/
def toExcept (title : Text) : Checked α → Except Rejection α
  | .ok a => .ok a
  | .bad issues => .error ⟨title, issues⟩

/-- Every item of a list, read at its index. -/
def each {ι : Type} (place : List Place) (item : List Place → ι → Checked α) :
    Nat → List ι → Checked (List α)
  | _, [] => .ok []
  | n, value :: values =>
    app (map List.cons (item (place ++ [.index n]) value)) (each place item (n + 1) values)

/-- Every item of a list of loose values, read at its index. -/
def ofItems (place : List Place) (item : Loose → Except IssueKind α) (values : List Loose) :
    Checked (List α) :=
  each place (fun place value => ofField place (item value)) 0 values

end Checked

/-- The value of an optional field or its default. -/
def Checked.orDefault {α : Type} (place : List Place) (default : α)
    (field : Loose → Except IssueKind α) : Option Loose → Checked α
  | none => .ok default
  | some value => .ofField place (field value)

/-- The value of a field that has to be there. -/
def Checked.required {α : Type} (place : List Place) (field : Loose → Except IssueKind α) :
    Option Loose → Checked α
  | none => .bad [⟨.missing, place⟩]
  | some value => .ofField place (field value)

end DocScribe
