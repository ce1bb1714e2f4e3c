import DocScribe.Settings.Lookup
import DocScribe.Settings.Words.Reading

/-!
# `DocScribe.Settings.Words`: settings in words

Among the settings may be a list of words as one would write them behind
a command. What they set comes before all else. The exclusion lines may
be set more than once, and several of them at a time; of all others the
last value counts.
-/

set_option autoImplicit false

namespace DocScribe.Settings.Words

/-- The name of the list of words. -/
def listName : Text := "_cli_parse_args"

/-- The word that a value is. A value that says nothing is an empty
word. -/
def wordOf (manner : Manner) : Loose → Except Flaw Text
  | .text t => .ok (if manner.smallens then smallened manner.signs t else t)
  | value =>
    if !value.isTruthy then .ok []
    else .error (if manner.smallens then .notWord value.typeName else .notSpelled value.typeName)

/-- The words that a value is, none if it is a flag. -/
def wordsOf (manner : Manner) : Loose → Except Flaw (List Text)
  | .list items => items.mapM (wordOf manner)
  | .null => .ok []
  | .bool _ => .ok []
  | value =>
    match value with
    | .int 0 => .ok []
    | .float x => if x.isZero then .ok [] else .error (.notWords value.typeName)
    | value => .error (.notWords value.typeName)

/-- The words for a setting that are no flags. -/
def wordsFor (given : List (Text × Given)) (name : Text) : List Text :=
  given.filterMap fun entry =>
    match entry.2 with
    | .word t => if entry.1 == name then some t else none
    | .flag _ => none

/-- The value of a setting that is no list. -/
def valueOf (manner : Manner) : Given → Loose
  | .word t => if manner.noneWord? = some t then .null else .text t
  | .flag b => .bool b

/-- What words set a setting to. -/
def valueFor (manner : Manner) (given : List (Text × Given)) (name : Text) :
    Except Fault (Option Loose) := do
  if name = excludeName then
    match wordsFor given name with
    | [] => pure none
    | words =>
      let list ← (merged manner.noneWord? words).mapError fun flaw =>
        Fault.words (.badItems (manner.beginning ++ name) flaw)
      readVariable .words name list
  else pure (((given.filter fun entry => entry.1 == name).getLast?).map fun entry =>
    valueOf manner entry.2)

/-- A flaw that is reported, or ends the run with a status. -/
def reported (endsRun : Bool) : Flaw → Flaw
  | .unreadable report => if endsRun then .stopped 2 else .unreadable report
  | flaw => flaw

/-- The settings that names give in words. -/
def settings (found : Text → Option Loose) (value : Loose) : Except Fault Values := do
  let flag (name : Text) (default : Bool) : Bool :=
    ((found name).map Loose.isTruthy).getD default
  let manner ← (Manner.ofValues found).mapError .words
  let words ← (wordsOf manner value).mapError .words
  let readWords := if flag "_cli_ignore_unknown_args" false then read else readAll
  let said ← (readWords manner words).mapError fun flaw =>
    Fault.words (reported (flag "_cli_exit_on_error" true) flaw)
  let values ← names.mapM fun name => do
    pure ((← valueFor manner said.given name).map fun value => (name, value))
  pure (values.filterMap id)

/-- The settings that are given in words, if any are. -/
def ofValues (found : Text → Option Loose) : Except Fault Values :=
  match found listName with
  | some value => settings found value
  | none => .ok []

end DocScribe.Settings.Words
