import DocScribe.Backend.Fault
import DocScribe.CommandLine.Check
import DocScribe.CommandLine.Options
import DocScribe.Document.Format
import DocScribe.Settings.Loading

/-!
# `DocScribe.CommandLine.Choices`: what options choose

Every option has its names and sets one choice. Values are checked in
the order in which their options were first written, so that the first
value that does not fit is the one reported. Choices that are also
settings become values that come before all others.
-/

set_option autoImplicit false

namespace DocScribe.CommandLine

/-- The options of all commands. -/
inductive OptionName where
  | config
  | verbose
  | quiet
  | version
  | help
  | provider
  | model
  | apiKey
  | localHost
  | format
  | outputFolder
  | examples
  | concurrency
  | toOutput
  | outputFile
deriving DecidableEq, Repr

namespace OptionName

/-- The ways to write an option. -/
def spellings (name : OptionName) : OptionTable OptionName :=
  let valued (words : List Text) := words.map fun word => ⟨word, name, .takesValue⟩
  let flagged (words : List Text) := words.map fun word => ⟨word, name, .sets true⟩
  match name with
  | .config => valued ["--config"]
  | .verbose => flagged ["--verbose", "-v"]
  | .quiet => flagged ["--quiet", "-q"]
  | .version => flagged ["--version"]
  | .help => flagged ["--help"]
  | .provider => valued ["--provider"]
  | .model => valued ["--model"]
  | .apiKey => valued ["--api-key"]
  | .localHost => valued ["--ollama-host"]
  | .format => valued ["--format"]
  | .outputFolder => valued ["--output-dir"]
  | .examples => flagged ["--examples"] ++ [⟨"--no-examples", .examples, .sets false⟩]
  | .concurrency => valued ["--concurrency"]
  | .toOutput => flagged ["--stdout"]
  | .outputFile => valued ["--output", "-o"]

/-- The names of an option. -/
def names (name : OptionName) : List Text :=
  name.spellings.map (·.word)

/-- The table of some options. -/
def table (names : List OptionName) : OptionTable OptionName :=
  names.flatMap spellings

end OptionName

namespace Given

/-- The value that was given; a flag has an empty one. -/
def content : Given → Text
  | .value content => content
  | .flag _ => []

/-- The state that was given; a value sets nothing. -/
def state : Given → Bool
  | .value _ => false
  | .flag state => state

end Given

/-- What the options of a command line choose. An option that was not
written leaves its choice open. -/
structure Choices where
  configFile : Option Path
  verbose : Bool
  quiet : Bool
  provider : Option Backend.Service
  model : Option Text
  apiKey : Option Text
  localHost : Option Text
  format : Option Format
  outputFolder : Option Path
  examples : Option Bool
  concurrency : Option Int
  toOutput : Bool
  outputFile : Option Path

namespace Choices

/-- Nothing is chosen. -/
def none : Choices :=
  { configFile := .none, verbose := false, quiet := false, provider := .none, model := .none
    apiKey := .none, localHost := .none, format := .none, outputFolder := .none
    examples := .none, concurrency := .none, toOutput := false, outputFile := .none }

/-- The choices with one more. -/
def set (ws : Workspace) (c : Choices) (name : OptionName) (given : Given) :
    Except Stop Choices := do
  let value := given.content
  match name with
  | .config =>
    pure { c with configFile := some (← checkPath ws name.names .file true value) }
  | .verbose => pure { c with verbose := given.state }
  | .quiet => pure { c with quiet := given.state }
  | .version => pure c
  | .help => pure c
  | .provider =>
    pure { c with
      provider := some (← chooseWord name.names Backend.Service.all Backend.Service.word value) }
  | .model => pure { c with model := some value }
  | .apiKey => pure { c with apiKey := some value }
  | .localHost => pure { c with localHost := some value }
  | .format =>
    pure { c with format := some (← chooseWord name.names Format.all Format.word value) }
  | .outputFolder =>
    pure { c with outputFolder := some (← checkPath ws name.names .folder false value) }
  | .examples => pure { c with examples := some given.state }
  | .concurrency =>
    pure { c with concurrency := some (← integerWithin name.names 1 32 value) }
  | .toOutput => pure { c with toOutput := given.state }
  | .outputFile =>
    pure { c with outputFile := some (← checkPath ws name.names .file false value) }

/-- The choices of a command line. -/
def ofWords (ws : Workspace) (words : Words OptionName) : Except Stop Choices :=
  words.settled.foldlM (fun c entry => c.set ws entry.1 entry.2) none

/-- A choice as a value of a setting, if it was made. -/
def value {α : Type} (name : Text) (toLoose : α → Loose) (choice : Option α) : Settings.Values :=
  (choice.map fun chosen => (name, toLoose chosen)).toList

/-- The choices that are settings. -/
def overrides (c : Choices) : Settings.Values :=
  value "provider" (fun s => .text (Backend.Service.word s)) c.provider
    ++ value "model" .text c.model
    ++ value "api_key" .text c.apiKey
    ++ value "output_format" (fun f => .text (Format.word f)) c.format
    ++ value "output_dir" (fun p => .text (Path.toText p)) c.outputFolder
    ++ value "include_examples" .bool c.examples
    ++ value "ollama_host" .text c.localHost
    ++ value "concurrency" .int c.concurrency

end Choices

end DocScribe.CommandLine
