import DocScribe.Json.Reader
import DocScribe.Settings.Basic
import DocScribe.Settings.Fault
import DocScribe.Validation.Lax

/-!
# `DocScribe.Settings.Lookup`: how variables are looked up

Settings may come from variables, and some settings are about these:
what the names of variables begin with and whether they do, whether the
case of a name counts, whether an empty value counts, which value stands
for none, what parts the name of a member from that of its table, which
dotfiles are read, how they are written and how far up they are looked
for, and which folders hold secrets, one to a file. Their names begin
with a low line. Nothing is said of them in the report on the settings.

A variable holds text, and so do words and secrets. That is the value of
a setting as it stands; a list is written in JSON.
-/

set_option autoImplicit false

namespace DocScribe.Settings

/-- Values by the names of settings. -/
abbrev Values := List (Text × Loose)

/-- How variables are looked up. -/
structure Lookup where
  /-- what the names of variables begin with -/
  beginning : Text
  caseCounts : Bool
  ignoresEmpty : Bool
  /-- the value that stands for none -/
  none? : Option Text
  /-- what parts the names of members, if any variable sets one -/
  memberMark? : Option Text
  dotfiles : List Text
  /-- what is said of the encoding of dotfiles -/
  dotfileEncoding : Option Loose
  /-- how many folders above the current one may hold a dotfile -/
  dotfileDepth : Nat
  secretFolders : List Text

namespace Lookup

/-- What the names of variables begin with if nothing else is said. -/
def usualBeginning : Text := "APIDOCGEN_"

/-- The dotfile that is read if nothing else is said. -/
def usualDotfile : Text := ".env"

/-- What the names of variables begin with, for a setting that is about
that. -/
def beginningOf : Option Loose → Except Fault Text
  | none => .ok usualBeginning
  | some (.text t) => .ok t
  | some (.list _) => .error (.unreadable "provider" .environment)
  | some (.table _) => .error (.unreadable "provider" .environment)
  | some value => .error (.noLength value.typeName)

/-- Whether the names of variables have a beginning. They may be said to
be as they are. -/
def hasBeginning : Option Loose → Bool
  | none => true
  | some (.text t) => t == ("variable" : Text) || t == ("all" : Text)
  | some _ => false

/-- How often a name of a member may be parted is a number. -/
def checkParts : Option Loose → Except Fault Unit
  | none => .ok ()
  | some value =>
    match value with
    | .bool _ => .ok ()
    | .int _ => .ok ()
    | .float _ => .ok ()
    | value => if value.isTruthy then .error (.notLessened value.typeName) else .ok ()

/-- The path that a value is. -/
def pathOf : Loose → Except Fault Text
  | .text t => .ok t
  | value => .error (.noPath value.typeName)

/-- The paths that a value names: one, or those in a list, or the keys
of a table. -/
def pathsOf : Loose → Except Fault (List Text)
  | .text t => .ok [t]
  | .list items => items.mapM pathOf
  | .table members => .ok (members.map (·.1))
  | .null => .ok []
  | value => .error (.notTable (.notIterable value.typeName))

/-- The paths under a name, or the usual ones. -/
def pathsUnder (usual : List Text) : Option Loose → Except Fault (List Text)
  | none => .ok usual
  | some value => pathsOf value

/-- How far up a dotfile is looked for. -/
def depthOf : Option Loose → Except Fault Nat
  | none => .ok 0
  | some (.bool b) => .ok (if b then 1 else 0)
  | some (.int n) => .ok n.toNat
  | some (.float x) => .ok (x.toInt?.getD 0).toNat
  | some value => .error (.notComparable value.typeName)

/-- The text that a value is, if it is one. -/
def textOf? : Loose → Option Text
  | .text t => some t
  | _ => none

/-- The way of looking up that names have been given. -/
def ofValues (found : Text → Option Loose) : Except Fault Lookup := do
  let flag (name : Text) : Bool := ((found name).map Loose.isTruthy).getD false
  checkParts (found "_env_nested_max_split")
  let beginning ← beginningOf (found "_env_prefix")
  let dotfiles ← pathsUnder [usualDotfile] (found "_env_file")
  -- Without dotfiles nobody asks how far up they are, so that any value will do.
  let dotfileDepth ← if dotfiles.isEmpty then pure 0 else depthOf (found "_env_file_depth")
  let secretFolders ← pathsUnder [] (found "_secrets_dir")
  pure
    { dotfiles, dotfileDepth, secretFolders
      beginning := if hasBeginning (found "_env_prefix_target") then beginning else []
      caseCounts := flag "_case_sensitive"
      ignoresEmpty := flag "_env_ignore_empty"
      none? := (found "_env_parse_none_str").bind textOf?
      memberMark? := ((found "_env_nested_delimiter").bind textOf?).filter fun t => !t.isEmpty
      dotfileEncoding := found "_env_file_encoding" }

/-- The encoding of dotfiles. -/
def encoding (lookup : Lookup) : Except Fault Encoding :=
  match lookup.dotfileEncoding with
  | none => .ok .utf8
  | some value =>
    if !value.isTruthy then .ok .utf8
    else
      match value with
      | .text name => (Encoding.ofName name).mapError .encoding
      | value => .error (.notEncoding value.typeName)

/-- The variable for a setting. -/
def variableFor (lookup : Lookup) (name : Text) : Text :=
  lookup.beginning ++ name

/-- Whether two names of variables are one. -/
def isSame (lookup : Lookup) (a b : Text) : Bool :=
  if lookup.caseCounts then a == b else a.toSmall == b.toSmall

/-- Whether a variable sets a member of what a setting holds. -/
def setsMember (lookup : Lookup) (name variableName : Text) : Bool :=
  let adapted (t : Text) : Text := if lookup.caseCounts then t else t.toSmall
  lookup.memberMark?.any fun mark =>
    (adapted (lookup.variableFor name) ++ mark).isPrefixOf (adapted variableName)

/-- Whether a value counts. -/
def counts (lookup : Lookup) (value : Option Text) : Bool :=
  !(lookup.ignoresEmpty && value == some [])

end Lookup

/-- The value of a variable as that of a setting; a list is written in
JSON, where `null` says nothing. -/
def readVariable (origin : Origin) (name value : Text) : Except Fault (Option Loose) :=
  if name = excludeName then
    match Json.parse value with
    | .ok .null => .ok none
    | .ok list => .ok (some list.toLoose)
    | .error (.nestingTooDeep container) => .error (.nestingTooDeep container)
    | .error _ => .error (.badList name origin)
  else .ok (some (.text value))

end DocScribe.Settings
