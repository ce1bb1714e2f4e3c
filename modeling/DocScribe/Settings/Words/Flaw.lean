import DocScribe.Text.Basic

/-!
# `DocScribe.Settings.Words.Flaw`: why words say no settings

How words are written is a setting too, and what is given for that may
be of no use. Words may be no words at all, or words that no setting
goes by. What is wrong in them either ends the run or is reported.
-/

set_option autoImplicit false

namespace DocScribe.Settings.Words

/-- Why the items of a list cannot be told apart. -/
inductive ItemFlaw where
  /-- a bracket has no counterpart -/
  | unclosed (closing : CodePoint)
  /-- a quotation mark has no counterpart -/
  | openQuotes
deriving DecidableEq, Repr

def ItemFlaw.message : ItemFlaw → Text
  | .unclosed closing => "Missing end delimiter \"" ++ [closing] ++ "\""
  | .openQuotes => "Mismatched quotes"

/-- What is wrong with words, or with how they should be written. -/
inductive Flaw where
  /-- names cannot begin with a text -/
  | badBeginning (t : Text)
  /-- a value that is no text is taken for the beginning of names -/
  | noBeginning (type : Text)
  /-- a value that has no length is taken for a text -/
  | noLength (type : Text)
  /-- there is no sign to begin words with -/
  | noSign
  /-- a value that is no text is taken for signs -/
  | notSigns (type : Text)
  /-- a value that is no table is taken for other names -/
  | notAliases (type : Text)
  /-- other names are in no list -/
  | notListed (type : Text)
  /-- another name is one of the words that ask for help -/
  | taken (words : List Text) (word : Text)
  /-- a value that is no text is taken for the word for no value -/
  | notNoneWord (type : Text)
  /-- a value that is no list is taken for words -/
  | notWords (type : Text)
  /-- a value that is no text is taken for a word -/
  | notWord (type : Text)
  /-- the same, where words are taken as they are -/
  | notSpelled (type : Text)
  /-- the items for a setting cannot be told apart -/
  | badItems (name : Text) (flaw : ItemFlaw)
  /-- words cannot be read; what is wrong with them -/
  | unreadable (report : Text)
  /-- the run ends, with a status -/
  | stopped (status : Nat)
deriving DecidableEq, Repr

namespace Flaw

def message : Flaw → Text
  | .badBeginning t => "CLI settings source prefix is invalid: " ++ t
  | .noBeginning type => "'" ++ type ++ "' object has no attribute 'startswith'"
  | .noLength type => "object of type '" ++ type ++ "' has no len()"
  | .noSign => "string index out of range"
  | .notSigns type => "argument of type '" ++ type ++ "' is not iterable"
  | .notAliases type => "'" ++ type ++ "' object has no attribute 'items'"
  | .notListed type => "'" ++ type ++ "' object is not iterable"
  | .taken words word =>
    "argument " ++ Text.joinWith "/" words ++ ": conflicting option string: " ++ word
  | .notNoneWord type => "sequence item 1: expected str instance, " ++ type ++ " found"
  | .notWords type =>
    "cli_parse_args must be a list or tuple of strings, received <class '" ++ type ++ "'>"
  | .notWord type => "expected string or bytes-like object, got '" ++ type ++ "'"
  | .notSpelled type => "'" ++ type ++ "' object is not subscriptable"
  | .badItems name flaw => "Parsing error encountered for " ++ name ++ ": " ++ flaw.message
  | .unreadable report => "error parsing CLI: " ++ report
  | .stopped status => Text.ofNat status

def typeName : Flaw → Text
  | .badBeginning _ => "SettingsError"
  | .noBeginning _ => "AttributeError"
  | .noLength _ => "TypeError"
  | .noSign => "IndexError"
  | .notSigns _ => "TypeError"
  | .notAliases _ => "AttributeError"
  | .notListed _ => "TypeError"
  | .taken _ _ => "ArgumentError"
  | .notNoneWord _ => "TypeError"
  | .notWords _ => "SettingsError"
  | .notWord _ => "TypeError"
  | .notSpelled _ => "TypeError"
  | .badItems _ _ => "SettingsError"
  | .unreadable _ => "SettingsError"
  | .stopped _ => "SystemExit"

/-- Whether a flaw makes settings invalid, and is not unforeseen. -/
def isInvalid : Flaw → Bool
  | .badBeginning _ => true
  | .notWords _ => true
  | .badItems _ _ => true
  | .unreadable _ => true
  | _ => false

end Flaw

end DocScribe.Settings.Words
