import DocScribe.Settings.Basic
import DocScribe.Settings.Words.Items
import DocScribe.Text.Word

/-!
# `DocScribe.Settings.Words.Manner`: how settings are written in words

A setting is written as its name behind a sign that is written twice,
with its value in the same word, behind an equals sign, or in the next
word. Which sign that is, what every name begins with, whether low
lines in names are hyphens, what other names there are, and whether a
flag is a word of its own can be set; so can the word for no value.

A manner comes down to a list of forms: the words for a setting, and
what they are for.
-/

set_option autoImplicit false

namespace DocScribe.Settings.Words

/-- Whether flags are words of their own. -/
inductive Switches where
  /-- flags have values as all settings have -/
  | none
  /-- there are words to set a flag and to unset it -/
  | both
  /-- there are words to make a flag what it is not by default -/
  | turning
deriving DecidableEq, Repr

/-- How settings are written in words. -/
structure Manner where
  /-- the signs that words may begin with; all of them are written
  twice in front of a name -/
  signs : Text
  /-- what every name begins with -/
  beginning : Text
  hyphens : Bool
  /-- whether words may be in capital letters -/
  smallens : Bool
  /-- the word for no value -/
  noneWord? : Option Text
  switches : Switches
  /-- other names by names -/
  aliases : List (Text × List Text)

/-- What words are for. -/
inductive Use where
  /-- to ask for help -/
  | help
  /-- to give a setting a value -/
  | value (name : Text)
  /-- to set a flag, or to unset it if the word says so -/
  | flag (name : Text)
  /-- to turn a flag to a value -/
  | turn (name : Text) (value : Bool)
deriving DecidableEq, Repr

/-- Words with one use. -/
structure Form where
  words : List Text
  use : Use
deriving DecidableEq, Repr

/-- Whether a value belongs to the words. -/
def Form.takesValue (form : Form) : Bool :=
  match form.use with
  | .value _ => true
  | _ => false

/-- The words as they are listed in a report. -/
def Form.listed (form : Form) : Text :=
  Text.joinWith "/" form.words

/-- The flags among the settings, and what they are by default. -/
def flags : List (Text × Bool) :=
  [("include_examples", true), ("verbose", false), ("quiet", false)]

/-- What words that unset a flag begin with. -/
def denial : Text := "--no-"

namespace Manner

/-! ### Forms -/

/-- The name of a setting as it is written. -/
def writtenName (manner : Manner) (name : Text) : Text :=
  manner.beginning
    ++ if manner.hyphens then
        name.map fun (c : CodePoint) => if c = '_' then CodePoint.ofChar '-' else c
      else name

/-- The word for a name. In front of one letter there is one sign. -/
def wordFor (manner : Manner) (written : Text) : Text :=
  (manner.signs ++ manner.signs).take written.length ++ written

/-- All names of a setting. -/
def namesOf (manner : Manner) (name : Text) : List Text :=
  let written := manner.writtenName name
  written :: (manner.aliases.filter fun entry => entry.1 == written).flatMap (·.2)

/-- A word for a flag and, if it has one, the word that unsets it. -/
def withDenial (word : Text) : List Text :=
  match Text.after? "--" word with
  | some name => [word, denial ++ name]
  | none => [word]

/-- The form of a setting. -/
def formOf (manner : Manner) (name : Text) : Form :=
  let plain : Form := ⟨(manner.namesOf name).map manner.wordFor, .value name⟩
  match flags.lookup name, manner.switches with
  | some _, .both => ⟨plain.words.flatMap withDenial, .flag name⟩
  | some true, .turning =>
    ⟨(manner.namesOf name).map fun written => manner.wordFor ("no-" ++ written), .turn name false⟩
  | some false, .turning => ⟨plain.words, .turn name true⟩
  | _, _ => plain

/-- The words that ask for help. They begin with a hyphen if words may,
else with the first sign. -/
def helpForm (manner : Manner) : Form :=
  let sign := if manner.signs.contains '-' then CodePoint.ofChar '-' else manner.signs.headD '-'
  ⟨[[sign, 'h'], sign :: sign :: Text.ofString "help"], .help⟩

/-- All forms. -/
def forms (manner : Manner) : List Form :=
  manner.helpForm :: names.map manner.formOf

/-- The form of a word. -/
def formFor? (manner : Manner) (word : Text) : Option Form :=
  manner.forms.find? fun form => form.words.contains word

/-- What is wrong if another name is a word that asks for help. -/
def checkAliases (manner : Manner) : Except Flaw Unit :=
  let taken (form : Form) : Option Flaw :=
    (form.words.find? manner.helpForm.words.contains).map fun word => .taken form.words word
  match (names.map manner.formOf).findSome? taken with
  | some flaw => .error flaw
  | none => .ok ()

/-! ### What has been set -/

/-- Whether names may begin with a text: parts between points, which
together make a name. -/
def isBeginning (t : Text) : Bool :=
  let point := CodePoint.ofChar '.'
  match t.filter (· != point) with
  | first :: others =>
    t.head? != some point && t.getLast? != some point
      && first.startsName && others.all CodePoint.continuesName
  | [] => false

/-- What names begin with, for a setting that is about that. -/
def beginningOf : Option Loose → Except Flaw Text
  | none => .ok []
  | some (.text []) => .ok []
  | some (.text t) => if isBeginning t then .ok (t ++ ".") else .error (.badBeginning t)
  | some value =>
    if value.isTruthy then .error (.noBeginning value.typeName)
    else
      match value with
      | .list _ => .ok []
      | .table _ => .ok []
      | value => .error (.noLength value.typeName)

/-- The signs that words begin with. -/
def signsOf : Option Loose → Except Flaw Text
  | none => .ok "-"
  | some (.text []) => .error .noSign
  | some (.text t) => .ok t
  | some value => .error (.notSigns value.typeName)

/-- The other names in a list, or the only one. -/
def aliasList (value : Loose) : Except Flaw (List Text) :=
  match value with
  | .text t => .ok [t]
  | .table members => .ok (members.map (·.1))
  | .list items =>
    items.mapM fun item =>
      match item with
      | .text t => .ok t
      | item => .error (.noLength item.typeName)
  | value => .error (.notListed value.typeName)

/-- The other names that there are. Names that no setting goes by say
nothing. -/
def aliasesOf (writtenNames : List Text) (value : Option Loose) :
    Except Flaw (List (Text × List Text)) :=
  match value with
  | some (.table members) =>
    (members.filter fun entry => writtenNames.contains entry.1).mapM fun entry => do
      pure (entry.1, (← aliasList entry.2).filter fun name => !name.isEmpty)
  | some value => if value.isTruthy then .error (.notAliases value.typeName) else .ok []
  | none => .ok []

/-- The word for no value. There is none if the value for it is no
text, which must not be shown then. -/
def noneWordOf (avoidsJson hides : Bool) (value : Option Loose) : Except Flaw (Option Text) :=
  match value.filter Loose.isTruthy with
  | none => .ok (some (if avoidsJson then Text.ofString "None" else nullWord))
  | some (.text t) => .ok (some t)
  | some value => if hides then .ok none else .error (.notNoneWord value.typeName)

/-- Whether flags are words, for a setting that is about that. -/
def switchesOf (value : Option Loose) : Switches :=
  match value.filter Loose.isTruthy with
  | none => .none
  | some (.text t) => if t = Text.ofString "toggle" then .turning else .both
  | some _ => .both

/-- The manner that names have been given. -/
def ofValues (found : Text → Option Loose) : Except Flaw Manner := do
  let flag (name : Text) : Bool := ((found name).map Loose.isTruthy).getD false
  let beginning ← beginningOf (found "_cli_prefix")
  let signs ← signsOf (found "_cli_flag_prefix_char")
  let plain : Manner :=
    { signs, beginning, hyphens := flag "_cli_kebab_case"
      smallens := match found "_case_sensitive" with
        | none => true
        | some (.bool b) => !b
        | some _ => false
      noneWord? := none, switches := switchesOf (found "_cli_implicit_flags"), aliases := [] }
  let aliases ← aliasesOf (names.map plain.writtenName) (found "_cli_shortcuts")
  let avoidsJson := match found "_cli_avoid_json" with
    | some (.bool b) => b
    | _ => false
  let noneWord? ← noneWordOf avoidsJson (flag "_cli_hide_none_type") (found "_cli_parse_none_str")
  let manner := { plain with aliases, noneWord? }
  manner.checkAliases
  pure manner

end Manner

end DocScribe.Settings.Words
