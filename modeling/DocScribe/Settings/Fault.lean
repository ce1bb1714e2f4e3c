import DocScribe.Json.Reader
import DocScribe.Pairs
import DocScribe.Settings.Words.Flaw
import DocScribe.Text.Encoding
import DocScribe.Validation.Issue
import DocScribe.Workspace.Fault

/-!
# `DocScribe.Settings.Fault`: why there are no settings

A file may be missing or no configuration, its table may be no table,
a variable may hold no list, and a value may not fit its setting. Some
of these are reported to the user as an invalid configuration; the
others are not expected and end the run.
-/

set_option autoImplicit false

namespace DocScribe.Settings

/-- Where a setting is given as text. -/
inductive Origin where
  | environment
  | dotfile
  | secrets
  | words
deriving DecidableEq, Repr

/-- The name of an origin in reports. -/
def Origin.word : Origin → Text
  | .environment => "EnvSettingsSource"
  | .dotfile => "DotEnvSettingsSource"
  | .secrets => "SecretsSettingsSource"
  | .words => "CliSettingsSource"

/-- Why settings cannot be made out. -/
inductive Fault where
  /-- the file that was asked for is not there -/
  | notFound (path : Text)
  /-- a file is out of reach or holds no text -/
  | file (fault : FileFault)
  /-- a file is no configuration -/
  | malformed (path : Text)
  /-- a number in a file is too long to be read -/
  | integerTooLong (digits : Nat)
  /-- containers in a file nest too deep -/
  | fileTooDeep
  /-- a value that is no table is asked for a key -/
  | notSearchable (type : Text)
  /-- a value that is no table is asked for a member -/
  | noMembers (type : Text)
  /-- a value is no table and spells none in pairs -/
  | notTable (e : PairsError)
  /-- a table has keys that are no texts -/
  | badNames
  /-- what is taken by its place is given once more by its name -/
  | givenTwice (taker name : Text)
  /-- a value is no pair -/
  | notPair (type : Text)
  /-- a pair has fewer parts than two -/
  | tooFew (count : Nat)
  /-- a pair has more parts than two -/
  | tooMany
  /-- a value that is no source is taken for one -/
  | notCallable (type : Text)
  /-- a value that is no number is compared with one -/
  | notComparable (type : Text)
  /-- one is taken from a value that is no number -/
  | notLessened (type : Text)
  /-- the home folder cannot be made out -/
  | noHome
  /-- a value that has no length is taken for a text -/
  | noLength (type : Text)
  /-- a value that is no text is taken for a path -/
  | noPath (type : Text)
  /-- a value that is no text is taken for the name of an encoding -/
  | notEncoding (type : Text)
  /-- a dotfile is not in the encoding that it should be in -/
  | encoding (fault : Encoding.Fault)
  /-- words say no settings -/
  | words (flaw : Words.Flaw)
  /-- a name cannot be that of a variable -/
  | unspellable (e : Utf8.EncodeError)
  /-- no path is given -/
  | noFile
  /-- a variable cannot be read at all -/
  | unreadable (name : Text) (origin : Origin)
  /-- secrets are not in a folder -/
  | notSecretFolder
  /-- a variable that should hold a list holds something else -/
  | badList (name : Text) (origin : Origin)
  /-- a variable holds a list that nests too deep -/
  | nestingTooDeep (container : Json.Container)
  /-- a file is there already -/
  | exists (path : Text)
  /-- values do not fit their settings -/
  | rejected (r : Rejection)
deriving DecidableEq

namespace Fault

def message : Fault → Text
  | .notFound path => "Config file not found: " ++ path
  | .file fault => fault.message
  | .malformed path => "Invalid config file " ++ path
  | .integerTooLong digits => (Json.ParseError.integerTooLong digits).message
  | .fileTooDeep => "maximum recursion depth exceeded"
  | .notSearchable type => "argument of type '" ++ type ++ "' is not iterable"
  | .noMembers type => "'" ++ type ++ "' object has no attribute 'get'"
  | .notTable e => e.message
  | .badNames => "keywords must be strings"
  | .givenTwice taker name => taker ++ "() got multiple values for argument '" ++ name ++ "'"
  | .notPair type => "cannot unpack non-iterable " ++ type ++ " object"
  | .tooFew count => "not enough values to unpack (expected 2, got " ++ Text.ofNat count ++ ")"
  | .tooMany => "too many values to unpack (expected 2)"
  | .notCallable type => "'" ++ type ++ "' object is not callable"
  | .notComparable type => "'<=' not supported between instances of '" ++ type ++ "' and 'int'"
  | .notLessened type => "unsupported operand type(s) for -: '" ++ type ++ "' and 'int'"
  | .noHome => "Could not determine home directory."
  | .noLength type => "object of type '" ++ type ++ "' has no len()"
  | .noPath type => "expected str, bytes or os.PathLike object, not " ++ type
  | .notEncoding type => "open() argument 'encoding' must be str or None, not " ++ type
  | .encoding fault => fault.message
  | .words flaw => flaw.message
  | .unspellable e => e.message
  | .noFile => "'NoneType' object has no attribute 'exists'"
  | .unreadable name origin =>
    "error getting value for field \"" ++ name ++ "\" from source \"" ++ origin.word ++ "\""
  | .notSecretFolder => "secrets_dir must reference a directory, not a file"
  | .badList name origin =>
    "error parsing value for field \"" ++ name ++ "\" from source \"" ++ origin.word ++ "\""
  | .nestingTooDeep container => (Json.ParseError.nestingTooDeep container).message
  | .exists path => "Config file already exists: " ++ path
  | .rejected r => r.message

def typeName : Fault → Text
  | .notFound _ => "FileNotFoundError"
  | .file fault => fault.typeName
  | .malformed _ => "ValueError"
  | .integerTooLong _ => "ValueError"
  | .fileTooDeep => "RecursionError"
  | .notSearchable _ => "TypeError"
  | .noMembers _ => "AttributeError"
  | .notTable (.wrongLength _ _) => "ValueError"
  | .notTable _ => "TypeError"
  | .badNames => "TypeError"
  | .givenTwice _ _ => "TypeError"
  | .notPair _ => "TypeError"
  | .tooFew _ => "ValueError"
  | .tooMany => "ValueError"
  | .notCallable _ => "TypeError"
  | .notComparable _ => "TypeError"
  | .notLessened _ => "TypeError"
  | .noHome => "RuntimeError"
  | .noLength _ => "TypeError"
  | .noPath _ => "TypeError"
  | .notEncoding _ => "TypeError"
  | .encoding fault => fault.typeName
  | .words flaw => flaw.typeName
  | .unspellable _ => "UnicodeEncodeError"
  | .noFile => "AttributeError"
  | .unreadable _ _ => "SettingsError"
  | .notSecretFolder => "SettingsError"
  | .badList _ _ => "SettingsError"
  | .nestingTooDeep _ => "RecursionError"
  | .exists _ => "FileExistsError"
  | .rejected _ => "ValidationError"

/-- Whether a fault counts as an invalid configuration: a file that is
missing, or a value that is not what it should be. -/
def isInvalid : Fault → Bool
  | .notFound _ => true
  | .file (.refused .missing _) => true
  | .file (.refused _ _) => false
  | .file _ => true
  | .malformed _ => true
  | .integerTooLong _ => true
  | .notTable (.wrongLength _ _) => true
  | .tooFew _ => true
  | .tooMany => true
  | .encoding (.unknown _) => false
  | .encoding (.noText _) => false
  | .encoding _ => true
  | .words flaw => flaw.isInvalid
  | .unspellable _ => true
  | .unreadable _ _ => true
  | .notSecretFolder => true
  | .badList _ _ => true
  | .rejected _ => true
  | _ => false

end Fault

end DocScribe.Settings
