import DocScribe.Terminal.Control
import DocScribe.Workspace.FileName

/-!
# `DocScribe.CommandLine.Usage`: command lines that are no request

A command line can be at fault in its words (an option or a command
that there is none of, something missing, something left over) or in
the value that it gives to an option or an argument. Every such error
says which word it is about; none of them starts the work that was
asked for. Paths are shown as far as their bytes spell a text.
-/

set_option autoImplicit false

namespace DocScribe.CommandLine

/-- What a path on the command line is meant to lead to. -/
inductive PathKind where
  | any
  | file
  | folder
deriving DecidableEq, Repr

/-- How a path of a kind is called. -/
def PathKind.word : PathKind → Text
  | .any => "Path"
  | .file => "File"
  | .folder => "Directory"

/-- What is wrong with the value of an option or an argument. -/
inductive ValueFault where
  | notOneOf (value : Text) (choices : List Text)
  | notInteger (value : Text)
  | outOfRange (value : Int) (low high : Nat)
  | missingPath (kind : PathKind) (path : Text)
  | isFolder (kind : PathKind) (path : Text)
  | isFile (kind : PathKind) (path : Text)
deriving DecidableEq

/-- Why a command line is no request. -/
inductive UsageError where
  | noSuchOption (name : Text)
  | noSuchCommand (name : Text)
  | missingCommand
  /-- an option that takes a value is the last word -/
  | needsValue (name : Text)
  /-- a value is given to an option that takes none -/
  | takesNoValue (name : Text)
  | missingArgument (name : Text)
  | extraArguments (arguments : List Text)
  /-- the value of a parameter does not fit; `hint` shows its names -/
  | badValue (hint : Text) (fault : ValueFault)
deriving DecidableEq

/-- The names of a parameter as errors show them. -/
def hintOf (names : List Text) : Text :=
  Text.joinWith " / " (names.map fun name => "'" ++ name ++ "'")

namespace ValueFault

def message : ValueFault → Text
  | .notOneOf value choices =>
    value.quoted ++ " is not one of " ++ Text.joinWith ", " (choices.map Text.quoted) ++ "."
  | .notInteger value => value.quoted ++ " is not a valid integer range."
  | .outOfRange value low high =>
    Text.ofInt value ++ " is not in the range " ++ Text.ofNat low ++ "<=x<=" ++ Text.ofNat high
      ++ "."
  | .missingPath kind path => kind.word ++ " " ++ (FileName.shown path).quoted ++ " does not exist."
  | .isFolder kind path => kind.word ++ " " ++ (FileName.shown path).quoted ++ " is a directory."
  | .isFile kind path => kind.word ++ " " ++ (FileName.shown path).quoted ++ " is a file."

end ValueFault

namespace UsageError

def message : UsageError → Text
  | .noSuchOption name => "No such option " ++ name.quoted ++ "."
  | .noSuchCommand name => "No such command " ++ name.quoted ++ "."
  | .missingCommand => "Missing command."
  | .needsValue name => "Option " ++ name.quoted ++ " requires an argument."
  | .takesNoValue name => "Option " ++ name.quoted ++ " does not take a value."
  | .missingArgument name => "Missing argument '" ++ name ++ "'."
  | .extraArguments arguments =>
    (if arguments.length = 1 then ("Got unexpected extra argument (" : Text)
      else "Got unexpected extra arguments (") ++ Text.joinWith " " arguments ++ ")"
  | .badValue hint fault => "Invalid value for " ++ hint ++ ": " ++ fault.message

/-- What reports an error. Whatever reads it is no terminal. -/
def line (e : UsageError) : Text :=
  Control.dropSequences ("Error: " ++ e.message)

end UsageError

end DocScribe.CommandLine
