import DocScribe.CommandLine.Choices

/-!
# `DocScribe.CommandLine.Request`: what a command line asks for

A command line has options of its own, then the name of a command, and
then the words of that command. A request is a command with its
choices and its arguments, all of them checked.

Where a text is all that is asked for, the help or the version, it is
told before any value is looked at. Arguments are checked after the
options, and what is left over comes last.
-/

set_option autoImplicit false

namespace DocScribe.CommandLine

/-- The name that the program goes by. -/
def programName : Text := "apidocgen"

def programVersion : Text := "0.1.0"

/-- The commands. -/
inductive Command where
  | generate
  | render
  | init
  | testConnection
  | version
deriving DecidableEq, Repr

namespace Command

def word : Command → Text
  | .generate => "generate"
  | .render => "render"
  | .init => "init"
  | .testConnection => "test-connection"
  | .version => "version"

/-- All commands. -/
def all : List Command := [.generate, .render, .init, .testConnection, .version]

/-- The command with a word. -/
def ofWord? (w : Text) : Option Command :=
  all.find? fun c => c.word == w

/-- The options that say which backend is meant. -/
def backendOptions : List OptionName := [.provider, .model, .apiKey, .localHost]

/-- The options of a command. -/
def options : Command → List OptionName
  | .generate =>
    backendOptions ++ [.format, .outputFolder, .examples, .concurrency, .toOutput, .help]
  | .render => [.format, .outputFile, .help]
  | .init => [.help]
  | .testConnection => backendOptions ++ [.help]
  | .version => [.help]

/-- How the arguments of a command are called. -/
def argumentNames : Command → List Text
  | .generate => ["PATHS..."]
  | .render => ["INPUT"]
  | .init => ["[OUTPUT]"]
  | .testConnection => []
  | .version => []

end Command

/-- The options in front of the command. -/
def frontOptions : List OptionName := [.config, .verbose, .quiet, .version, .help]

/-! ### Texts that are told -/

/-- The version as it is told. -/
def versionText : Text := programName ++ ", version " ++ programVersion ++ "\n"

/-- A usage line and the words of the options. -/
def helpText (usage : List Text) (options : List OptionName) : Text :=
  let lines : List Text := options.map fun name => "  " ++ Text.joinWith ", " name.names ++ "\n"
  "Usage: " ++ Text.joinWith " " usage ++ "\n\nOptions:\n" ++ lines.flatten

/-- What an option tells, if it does nothing else. -/
def told? (help : Text) : OptionName → Option Text
  | .version => some versionText
  | .help => some help
  | _ => none

/-! ### Reading -/

/-- The choices and the operands of a part of a command line. -/
def readPart (ws : Workspace) (options : List OptionName) (mixed : Bool) (help : Text)
    (words : List Text) : Except Stop (Choices × List Text) := do
  let read ← (readWords (OptionName.table options) mixed words).mapError Stop.usage
  -- Told before any value is checked: a bad value beside a request for help is no mistake.
  match read.settled.findSome? fun entry => told? help entry.1 with
  | some content => throw (.told content)
  | none => pure (← Choices.ofWords ws read, read.operands)

/-- The choices in front of the command, and the words from the
command on. -/
def readFront (ws : Workspace) (words : List Text) : Except Stop (Choices × List Text) :=
  readPart ws frontOptions false (helpText [programName, "[OPTIONS]", "COMMAND", "[ARGS]..."]
    frontOptions) words

/-- What is asked of the program. -/
inductive Request where
  | generate (choices : Choices) (paths : List Path)
  | render (choices : Choices) (input : Path)
  | init (path : Path)
  | testConnection (choices : Choices)
  | version

/-- Arguments beyond those that a command has. -/
def refuseExtra : List Text → Except Stop Unit
  | [] => .ok ()
  | extra => .error (.usage (.extraArguments extra))

/-- The request with choices and arguments. -/
def Command.request (ws : Workspace) (choices : Choices) (operands : List Text) :
    Command → Except Stop Request
  | .generate =>
    match operands with
    | [] => .error (.usage (.missingArgument "PATHS..."))
    | paths => (paths.mapM (checkPath ws ["PATHS..."] .any true)).map (.generate choices)
  | .render =>
    match operands with
    | [] => .error (.usage (.missingArgument "INPUT"))
    | input :: extra => do
      -- The argument that is there is checked before those that are too many.
      let path ← checkPath ws ["INPUT"] .file true input
      refuseExtra extra
      pure (.render choices path)
  | .init => do
    let path ← checkPath ws ["[OUTPUT]"] .any false (operands.headD Settings.fileName)
    refuseExtra operands.tail
    pure (.init path)
  | .testConnection => (refuseExtra operands).map fun _ => .testConnection choices
  | .version => (refuseExtra operands).map fun _ => .version

/-- The request that the words of a command make. -/
def Command.read (ws : Workspace) (c : Command) (words : List Text) : Except Stop Request := do
  let (choices, operands) ← readPart ws c.options true
    (helpText ([programName, c.word, "[OPTIONS]"] ++ c.argumentNames) c.options) words
  c.request ws choices operands

end DocScribe.CommandLine
