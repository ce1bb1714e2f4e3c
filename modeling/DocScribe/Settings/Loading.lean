import DocScribe.Settings.Basic
import DocScribe.Settings.Dotfile
import DocScribe.Settings.File
import DocScribe.Settings.Lookup
import DocScribe.Settings.Words

/-!
# `DocScribe.Settings.Loading`: where settings come from

A setting is given on the command line, by a variable of the
environment, by the file that holds settings, by a variable of a
dotfile, or by a secret. A value of the command line comes first. A
variable of the environment comes before the file, whatever the case
of its name, and the file before dotfiles and secrets.

The case of letters counts nothing in the names of settings, neither on
the command line nor in the file. Of several spellings of one name the
first one counts.
-/

set_option autoImplicit false

namespace DocScribe.Settings

/-! ### Variables -/

/-- The last value of a variable that counts. -/
def valueOf? (lookup : Lookup) (bindings : List Dotfile.Binding) (name : Text) : Option Text :=
  -- A variable without a value is found like any other, and then says nothing.
  ((bindings.reverse.find? fun entry =>
    lookup.isSame entry.1 (lookup.variableFor name) && lookup.counts entry.2).bind (·.2))

/-- The value of a variable, which may be the one that stands for
none. -/
def readBound (lookup : Lookup) (origin : Origin) (name value : Text) :
    Except Fault (Option Loose) :=
  if lookup.none? = some value then .ok (some .null) else readVariable origin name value

/-- The settings that a source gives, of so many names. -/
def readEach (read : Text → Except Fault (Option Loose)) : List Text → Except Fault Values
  | [] => .ok []
  | name :: names => do
    let value ← read name
    let others ← readEach read names
    pure ((value.map fun v => (name, v)).toList ++ others)

/-- What a setting that holds a list gets from variables that set
members of it, which is no list. -/
def membersOf? (lookup : Lookup) (bindings : List Dotfile.Binding) (name : Text) : Option Loose :=
  if name = excludeName
      ∧ bindings.any fun entry => lookup.setsMember name entry.1 && lookup.counts entry.2 then
    some (.table [])
  else none

/-- The settings that variables give. -/
def readVariables (lookup : Lookup) (origin : Origin) (bindings : List Dotfile.Binding) :
    Except Fault Values :=
  readEach (fun name =>
    match valueOf? lookup bindings name with
    | none => .ok (membersOf? lookup bindings name)
    | some value => readBound lookup origin name value) names

/-! ### Dotfiles and secrets -/

/-- The homes of accounts that every system has. -/
def accountHomes : List (Text × Text) :=
  [("root", "/root"), ("daemon", "/usr/sbin"), ("bin", "/bin"), ("sys", "/dev"), ("sync", "/bin"),
    ("games", "/usr/games"), ("man", "/var/cache/man"), ("lp", "/var/spool/lpd"),
    ("mail", "/var/mail"), ("news", "/var/spool/news"), ("uucp", "/var/spool/uucp"),
    ("proxy", "/bin"), ("www-data", "/var/www"), ("backup", "/var/backups"),
    ("list", "/var/list"), ("irc", "/run/ircd"), ("nobody", "/nonexistent")]

/-- The home that a segment stands for: that of the user, or of the
account that is named behind the tilde. -/
def homeNamed (ws : Workspace) (segment : Text) : Except Fault Path :=
  match segment.drop 1, ws.home with
  | [], .folder home => .ok home
  | [], _ => .error .noHome
  | account, _ =>
    match accountHomes.lookup account with
    | some home => .ok (Path.ofText home)
    | none => .error .noHome

/-- The path that a text names; a tilde in front stands for a home. -/
def expandedPath (ws : Workspace) (t : Text) : Except Fault Path :=
  let path := Path.ofText t
  match path.isAbsolute, path.segments with
  | false, first :: others =>
    if first.head? ≠ some (CodePoint.ofChar '~') then .ok path
    else (homeNamed ws first).map fun home => home.join ⟨.relative, others⟩
  | _, _ => .ok path

/-- Where a dotfile is, if it is there: at its path, or at the same path
from one of so many folders above. -/
def dotfilePlace? (ws : Workspace) (path : Path) : Nat → Except Fault (Option Path)
  | 0 => do pure (if ← (ws.isFile? path).mapError .file then some path else none)
  | depth + 1 => do
    if ← (ws.isFile? path).mapError .file then pure (some path)
    else if path.isAbsolute then pure none
    else dotfilePlace? ws { path with segments := ".." :: path.segments } depth

/-- The variables of a dotfile, if it is there. -/
def dotfileVariables (ws : Workspace) (lookup : Lookup) (name : Text) :
    Except Fault (List Dotfile.Binding) := do
  match ← dotfilePlace? ws (← expandedPath ws name) lookup.dotfileDepth with
  | none => pure []
  | some path =>
    let encoding ← lookup.encoding
    let bytes ← (ws.readBytes path).mapError .file
    let text ← (encoding.decode bytes).mapError .encoding
    pure (Dotfile.settledBindings ws.environment text.unifyNewlines)

/-- The folders of secrets that are there. What is there has to be a
folder. -/
def secretFolders (ws : Workspace) (lookup : Lookup) :
    Except Fault (List (Path × List (Text × Tree))) := do
  let paths ← lookup.secretFolders.mapM (expandedPath ws)
  let found ← paths.mapM fun path => do
    pure ((← (ws.find? path).mapError .file).map fun tree => (path, tree))
  (found.filterMap id).mapM fun entry =>
    match entry.2 with
    | .folder entries => .ok (entry.1, entries)
    | .file _ => .error .notSecretFolder

/-- The content of the file that holds a secret, without blanks around
it. A folder that comes later is looked at first. -/
def readSecret (lookup : Lookup) (folders : List (Path × List (Text × Tree))) (name : Text) :
    Except Fault (Option Loose) :=
  let found := folders.reverse.findSome? fun folder =>
    match folder.2.find? fun entry => lookup.isSame entry.1 (lookup.variableFor name) with
    | some (_, .file content) => some content
    | _ => none
  match found with
  | none => .ok none
  | some content =>
    match Utf8.decode content with
    | .ok t => readVariable .secrets name t.unifyNewlines.trim
    | .error _ => .error (.unreadable name .secrets)

/-! ### The file -/

/-- Whether a variable of the environment takes the place of a value
of the file. -/
def isShadowed (environment : List (Text × Text)) (name : Text) : Bool :=
  environment.any fun entry => entry.1.toCapital == (Lookup.usualBeginning ++ name).toCapital

/-- The values of the file that is asked for, or that is found. Keys
that are not shadowed have to be texts. -/
def fileValues (ws : Workspace) (path : Option Path) : Except Fault Values := do
  let source ←
    match path with
    | some path => pure (some path)
    | none => findFile ws
  match source with
  | none => pure []
  | some path =>
    -- A shadowed key is dropped before it is asked whether it is a text.
    let entries := (← fileEntries ws path).filter fun e =>
      !isShadowed ws.environment e.1.written
    if entries.any fun e => !e.1.isText then throw .badNames
    pure (entries.map fun e => (e.1.written, e.2.toLoose))

/-- A value that says something. -/
def isGiven (entry : Text × Loose) : Bool :=
  match entry.2 with
  | .null => false
  | _ => true

/-- Values with others in their place or behind them. -/
def overlaid (values others : Values) : Values :=
  others.foldl (fun values entry => PairsView.putNamed values entry.1 entry.2) values

/-- The value of a setting, under its first spelling. -/
def spelled? (values : Values) (name : Text) : Option Loose :=
  (values.find? fun entry => entry.1.toSmall == name).map (·.2)

/-- The first value for a name in lists of values, the first list
first. -/
def firstValue (sources : List Values) (name : Text) : Option Loose :=
  sources.findSome? fun values => values.lookup name

/-- The name that only the path of the file goes by. -/
def pathName : Text := "config_path"

/-- Names that are taken already, with who takes them. -/
def takenNames : List (Text × Text) :=
  [("__pydantic_self__", "BaseSettings.__init__"), ("cls", "BaseSettings._settings_init_sources")]

/-- A name that is taken already must not be given. -/
def checkNames (values : Values) (names : List (Text × Text)) : Except Fault Unit :=
  match names.find? fun entry => (values.lookup entry.1).isSome with
  | some (name, taker) => .error (.givenTwice taker name)
  | none => .ok ()

/-! ### Other sources -/

/-- The name under which a pair of sources and names takes the place of
all that settings come from. -/
def sourcesName : Text := "_build_sources"

/-- The parts of a value that is taken for a pair. -/
def partsOf : Loose → Except Fault (List Loose)
  | .text t => .ok (t.map fun c => .text [c])
  | .list items => .ok items
  | .table members => .ok (members.map fun member => .text member.1)
  | value => .error (.notPair value.typeName)

/-- The first source among some that are given, which is none: no value
that is written can be asked for settings. -/
def askSources (sources : Loose) : Except Fault Unit :=
  if !sources.isTruthy then .ok ()
  else
    match sources with
    | .text _ => .error (.notCallable "str")
    | .table _ => .error (.notCallable "str")
    | .list (first :: _) => .error (.notCallable first.typeName)
    | value => .error (.notTable (.notIterable value.typeName))

/-- Other sources are asked in the place of the usual ones. Only where
there are none nothing is wrong. -/
def askOthers (value : Loose) : Except Fault Unit := do
  match ← partsOf value with
  | [sources, _] => askSources sources
  | parts => if parts.length < 2 then throw (.tooFew parts.length) else throw .tooMany

/-- What settings are given, by all sources in their order. -/
def fromSources (ws : Workspace) (values : Values) : Except Fault (List Values) := do
  checkNames values (takenNames.drop 1)
  -- Settings about the sources are found under their exact names, all others in any spelling.
  let found (name : Text) : Option Loose := values.lookup name
  let lookup ← Lookup.ofValues found
  let dotfiles ← lookup.dotfiles.mapM (dotfileVariables ws lookup)
  let fromWords ← Words.ofValues found
  let fromEnvironment ← readVariables lookup .environment
    (ws.environment.map fun entry => (entry.1, some entry.2))
  let fromDotfiles ← readVariables lookup .dotfile dotfiles.flatten
  let folders ← secretFolders ws lookup
  let fromSecrets ← readEach (readSecret lookup folders) names
  let given := names.filterMap fun name => (spelled? values name).map fun value => (name, value)
  pure [fromWords, given, fromEnvironment, fromDotfiles, fromSecrets]

/-- The settings of a run; `overrides` are those of the command line,
where `null` says nothing. -/
def load (ws : Workspace) (path : Option Path) (overrides : Values) : Except Fault Settings := do
  checkNames overrides [(pathName, "load_config")]
  -- What says nothing on the command line must not hide what the file says.
  let values := overlaid (← fileValues ws path) (overrides.filter isGiven)
  checkNames values (takenNames.take 1)
  let sources ←
    match values.lookup sourcesName with
    | some others => (askOthers others).map fun _ => []
    | none => fromSources ws values
  ((ofValues (firstValue sources)).toExcept title).mapError .rejected

end DocScribe.Settings
