import DocScribe.Text.Basic

/-!
# `DocScribe.Validation.Issue`: what is wrong with an input

A value that does not fit a record is refused with a list of issues,
each with its kind and its place. The wording is one function of the
kind.
-/

set_option autoImplicit false

namespace DocScribe

/-- A step on the way to a value inside a larger one. -/
inductive Place where
  | key (name : Text)
  | index (n : Nat)
deriving DecidableEq

/-- The kinds of misfit. -/
inductive IssueKind where
  | missing
  | notText
  | notFlag
  | unreadableFlag
  | notInteger
  | unreadableInteger
  | integerTooLong
  | fractionalInteger
  | notFinite
  | notNumber
  | unreadableNumber
  | notGreater (bound : Nat)
  | notAtLeast (bound : Nat)
  | notAtMost (bound : Nat)
  | notList
  | notTable
  | notRecord (record : Text)
  | notObject
  | notArray
  | notPath
  | notOneOf (choices : Text)
  | refused (reason : Text)
  | frozen
  | badJson
  | notUnicode
deriving DecidableEq

namespace IssueKind

/-- The short identifier of a kind. -/
def code : IssueKind → Text
  | .missing => "missing"
  | .notText => "string_type"
  | .notFlag => "bool_type"
  | .unreadableFlag => "bool_parsing"
  | .notInteger => "int_type"
  | .unreadableInteger => "int_parsing"
  | .integerTooLong => "int_parsing_size"
  | .fractionalInteger => "int_from_float"
  | .notFinite => "finite_number"
  | .notNumber => "float_type"
  | .unreadableNumber => "float_parsing"
  | .notGreater _ => "greater_than"
  | .notAtLeast _ => "greater_than_equal"
  | .notAtMost _ => "less_than_equal"
  | .notList => "list_type"
  | .notTable => "dict_type"
  | .notRecord _ => "model_type"
  | .notObject => "model_type"
  | .notArray => "list_type"
  | .notPath => "path_type"
  | .notOneOf _ => "enum"
  | .refused _ => "value_error"
  | .frozen => "frozen_instance"
  | .badJson => "json_invalid"
  | .notUnicode => "string_unicode"

def message : IssueKind → Text
  | .missing => "Field required"
  | .notText => "Input should be a valid string"
  | .notFlag => "Input should be a valid boolean"
  | .unreadableFlag => "Input should be a valid boolean, unable to interpret input"
  | .notInteger => "Input should be a valid integer"
  | .unreadableInteger =>
    "Input should be a valid integer, unable to parse string as an integer"
  | .integerTooLong =>
    "Unable to parse input string as an integer, exceeded maximum size"
  | .fractionalInteger =>
    "Input should be a valid integer, got a number with a fractional part"
  | .notFinite => "Input should be a finite number"
  | .notNumber => "Input should be a valid number"
  | .unreadableNumber => "Input should be a valid number, unable to parse string as a number"
  | .notGreater bound => "Input should be greater than " ++ Text.ofNat bound
  | .notAtLeast bound => "Input should be greater than or equal to " ++ Text.ofNat bound
  | .notAtMost bound => "Input should be less than or equal to " ++ Text.ofNat bound
  | .notList => "Input should be a valid list"
  | .notTable => "Input should be a valid dictionary"
  | .notRecord record => "Input should be a valid dictionary or instance of " ++ record
  | .notObject => "Input should be an object"
  | .notArray => "Input should be a valid array"
  | .notPath => "Input is not a valid path for <class 'pathlib.Path'>"
  | .notOneOf choices => "Input should be " ++ choices
  | .refused reason => "Value error, " ++ reason
  | .frozen => "Instance is frozen"
  | .badJson => "Invalid JSON"
  | .notUnicode =>
    "Input should be a valid string, unable to parse raw data as a unicode string"

end IssueKind

/-- One misfit and where it is. -/
structure Issue where
  kind : IssueKind
  place : List Place
deriving DecidableEq

/-- An input refused as a `title`, with its issues in field order. -/
structure Rejection where
  title : Text
  issues : List Issue
deriving DecidableEq

/-- The headline of a refusal. -/
def Rejection.message (r : Rejection) : Text :=
  Text.ofNat r.issues.length
    ++ (if r.issues.length = 1 then " validation error for " else " validation errors for ")
    ++ r.title

end DocScribe
