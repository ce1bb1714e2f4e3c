import DocScribe.Pairs
import DocScribe.Validation.Issue

/-!
# `DocScribe.Record.Change`: records do not change

A record keeps the values that it was read with: its fields cannot be
assigned, nor can any other plain name. Two lists of labels belong to
all records of a kind and to none of them.

Names with a low line in front are not a record's own. They may be
assigned, but for a few that say what a record is made of.
-/

set_option autoImplicit false

namespace DocScribe

/-- Why an assignment is refused. -/
inductive ChangeFault where
  /-- the name of a field, or one that could be -/
  | frozen (name : Text)
  /-- a name that is no text -/
  | badName (type : Text)
  /-- a name that belongs to a kind of records -/
  | shared (name : Text)
  /-- the table of all values takes a table -/
  | notTable (type : Text)
  /-- a kind is no value that can be written -/
  | notKind (type : Text)
  /-- names that follow from the record: all of its fields, and those
  that were given when it was read -/
  | computed (name : Text)
  /-- references to a record are not part of it -/
  | readOnly (name : Text)
deriving DecidableEq

namespace ChangeFault

/-- The kind of record that can be assigned to. -/
def kind : Text := "DocumentationUnit"

def message : ChangeFault → Text
  | .frozen name => (Rejection.mk kind [⟨.frozen, [.key name]⟩]).message
  | .badName type => "attribute name must be string, not '" ++ type ++ "'"
  | .shared name =>
    "'" ++ name ++ "' is a ClassVar of `" ++ kind ++ "` and cannot be set on an instance. "
      ++ "If you want to set a value on the class, use `" ++ kind ++ "." ++ name ++ " = value`."
  | .notTable type => "__dict__ must be set to a dictionary, not a '" ++ type ++ "'"
  | .notKind type => "__class__ must be set to a class, not '" ++ type ++ "' object"
  | .computed name => "property '" ++ name ++ "' of '" ++ kind ++ "' object has no setter"
  | .readOnly name => "attribute '" ++ name ++ "' of 'DocRecord' objects is not writable"

def typeName : ChangeFault → Text
  | .frozen _ => "ValidationError"
  | .badName _ => "TypeError"
  | .shared _ => "AttributeError"
  | .notTable _ => "TypeError"
  | .notKind _ => "TypeError"
  | .computed _ => "AttributeError"
  | .readOnly _ => "AttributeError"

end ChangeFault

namespace FileDoc

/-- The names that belong to all records of a file's documentation. -/
def sharedNames : List Text := ["SECTION_FIELDS", "SOURCE_FIELDS"]

/-- Whether a name is not a record's own. -/
def isOutside (name : Text) : Bool :=
  name.head? == some (CodePoint.ofChar '_')

/-- Why a name outside of the record cannot be given a value, if that
is so. -/
def outsideFault? (name : Text) (value : Json) : Option ChangeFault :=
  if name = "__dict__" then
    match value with
    | .obj _ => none
    | value => some (.notTable value.typeName)
  else if name = "__class__" then some (.notKind value.typeName)
  else if name = "__fields__" ∨ name = "__fields_set__" then some (.computed name)
  else if name = "__weakref__" then some (.readOnly name)
  else none

/-- Why a name cannot be given a value, if that is so. -/
def changeFault? (name value : Json) : Option ChangeFault :=
  match name with
  | .str name =>
    if sharedNames.contains name then some (.shared name)
    else if isOutside name then outsideFault? name value
    else some (.frozen name)
  | name => some (.badName name.typeName)

end FileDoc

end DocScribe
