import DocScribe.Backend.Config
import DocScribe.Backend.Fault
import DocScribe.Document.Format
import DocScribe.Log
import DocScribe.Path
import DocScribe.Text.Quoted
import DocScribe.Workspace.FileName

/-!
# `DocScribe.Settings.Basic`: what a run can be told

Every setting has a name, a default and a field that reads it from a
loose value. The settings of a run are read as a whole from a function
that says which value, if any, a name has been given; where that comes
from is not decided here.
-/

set_option autoImplicit false

namespace DocScribe

/-- The settings of a run. The concurrency lies between one and 32,
the other numbers are bounded as a backend needs it. -/
structure Settings where
  provider : Text
  model : Option Text
  apiKey : Option Text
  apiKeyVariable : Text
  localHost : Text
  localModel : Text
  temperature : Double
  maxTokens : Int
  timeout : Option Double
  outputFormat : Format
  outputFolder : Path
  includeExamples : Bool
  excludePatterns : List Text
  concurrency : Int
  verbose : Bool
  quiet : Bool
  logLevel : Log.Level
  logFormat : Log.Layout

namespace Settings

/-! ### Fields -/

/-- Words as they are listed in a report. -/
def listed (words : List Text) : Text :=
  Text.joinWith ", " words

/-- A word that is none of those that are known. -/
def unknownWord (name : Text) (known : List Text) (word : Text) : IssueKind :=
  .refused (name ++ " must be one of " ++ listed known ++ ", got " ++ word.quoted)

/-- The provider: any word, without blanks around it, in small
letters. -/
def providerField (value : Loose) : Except IssueKind Text :=
  (Lax.text value).map fun word => word.trim.toSmall

/-- The choices of formats as they are listed for a value that is no
text. -/
def formatChoices : Text := "'markdown', 'html' or 'json'"

/-- A format, blanks and letter case aside. -/
def formatField : Loose → Except IssueKind Format
  | .text t =>
    match Format.ofName? t with
    | some format => .ok format
    | none => .error (unknownWord "output_format" (Format.all.map Format.word) t.trim.toSmall)
  | _ => .error (.notOneOf formatChoices)

/-- The path of a folder. -/
def folderField : Loose → Except IssueKind Path
  | .text t => .ok (Path.ofText t)
  | _ => .error .notPath

/-- A log level, letter case aside. -/
def levelField (value : Loose) : Except IssueKind Log.Level := do
  let name := (← Lax.text value).toCapital
  match Log.Level.ofSettingName? name with
  | some level => pure level
  | none => throw (unknownWord "log_level" (Log.Level.all.map Log.Level.settingName) name)

/-- A layout of log lines, letter case aside. -/
def layoutField (value : Loose) : Except IssueKind Log.Layout := do
  let name := (← Lax.text value).toSmall
  match Log.Layout.ofWord? name with
  | some layout => pure layout
  | none => throw (unknownWord "log_format" (Log.Layout.all.map Log.Layout.word) name)

/-- The name of the exclusion lines. -/
def excludeName : Text := "exclude_patterns"

/-- The exclusion lines. -/
def patternsOf : Option Loose → Checked (List Text)
  | none => .ok []
  | some (.list items) => Checked.ofItems [.key excludeName] Lax.text items
  | some _ => .bad [⟨.notList, [.key excludeName]⟩]

/-! ### Settings -/

/-- The name that refused settings are reported under. -/
def title : Text := "ApiDocConfig"

/-- The names of the settings, in their order. -/
def names : List Text :=
  ["provider", "model", "api_key", "api_key_env", "ollama_host", "ollama_model", "temperature",
    "max_tokens", "timeout", "output_format", "output_dir", "include_examples", excludeName,
    "concurrency", "verbose", "quiet", "log_level", "log_format"]

/-- One setting, or its default. -/
def one {α : Type} (found : Text → Option Loose) (name : Text) (default : α)
    (field : Loose → Except IssueKind α) : Checked α :=
  Checked.orDefault [.key name] default field (found name)

/-- The settings that names have been given. -/
def ofValues (found : Text → Option Loose) : Checked Settings :=
  Settings.mk
    <$> one found "provider" "openai" providerField
    <*> one found "model" none (Lax.optional Lax.text)
    <*> one found "api_key" none (Lax.optional Lax.text)
    <*> one found "api_key_env" "OPENAI_API_KEY" Lax.text
    <*> one found "ollama_host" "http://localhost:11434" Lax.text
    <*> one found "ollama_model" "llama2" Lax.text
    <*> one found "temperature" Backend.Config.defaultTemperature Lax.temperature
    <*> one found "max_tokens" Backend.Config.defaultMaxTokens Lax.positiveInteger
    <*> one found "timeout" none (Lax.optional Lax.positiveNumber)
    <*> one found "output_format" .markdown formatField
    <*> one found "output_dir" (Path.ofText "docs") folderField
    <*> one found "include_examples" true Lax.flag
    <*> patternsOf (found excludeName)
    <*> one found "concurrency" 1 (Lax.integerBetween 1 32)
    <*> one found "verbose" false Lax.flag
    <*> one found "quiet" false Lax.flag
    <*> one found "log_level" .info levelField
    <*> one found "log_format" .console layoutField

/-- A text, or `null` for none. -/
def optionalText : Option Text → Json
  | some t => .str t
  | none => .null

/-- The settings by their names, with a word for the format. -/
def entries (s : Settings) (formatWord : Text) : Json.Members :=
  [("provider", .str s.provider), ("model", optionalText s.model),
    ("api_key", optionalText s.apiKey), ("api_key_env", .str s.apiKeyVariable),
    ("ollama_host", .str s.localHost), ("ollama_model", .str s.localModel),
    ("temperature", .float s.temperature), ("max_tokens", .int s.maxTokens),
    ("timeout", match s.timeout with
      | some seconds => .float seconds
      | none => .null),
    ("output_format", .str formatWord), ("output_dir", .str s.outputFolder.toText),
    ("include_examples", .bool s.includeExamples),
    (excludeName, .arr (s.excludePatterns.map Json.str)),
    ("concurrency", .int s.concurrency), ("verbose", .bool s.verbose), ("quiet", .bool s.quiet),
    ("log_level", .str s.logLevel.settingName), ("log_format", .str s.logFormat.word)]

/-- The settings by their names. -/
def toMembers (s : Settings) : Json.Members :=
  s.entries s.outputFormat.word

/-- The settings as a person sees them. -/
def shownEntries (s : Settings) : Json.Members :=
  s.entries ("OutputFormat." ++ s.outputFormat.word.toCapital)

/-! ### Keys and backends -/

/-- The value of a variable, for a name that can be one. -/
def ofVariable (environment : List (Text × Text)) (name : Text) :
    Except Utf8.EncodeError (Option Text) :=
  match FileName.encodeError? name with
  | some e => .error e
  | none => .ok (environment.lookup name)

/-- The key that a setting leads to. It may be the name of a variable
that holds the key. If nothing is set, another variable is looked
at. -/
def resolveKey (environment : List (Text × Text)) (apiKey variableName : Option Text) :
    Except Utf8.EncodeError Text := do
  match (apiKey.getD []).trim with
  | [] =>
    match variableName with
    | some (c :: rest) => pure ((← ofVariable environment (c :: rest)).getD []).trim
    | _ => pure []
  | value =>
    match ← ofVariable environment value with
    | some (c :: rest) => pure (c :: rest)
    | _ => pure value

/-- What a backend needs to know of the settings. -/
def backendConfig (s : Settings) (environment : List (Text × Text)) :
    Except Utf8.EncodeError Backend.Config :=
  let shared : Backend.Config :=
    { provider := s.provider, model := s.model, apiKey := none, baseUrl := none
      temperature := s.temperature, maxTokens := s.maxTokens, timeout := s.timeout
      parameters := [] }
  if s.provider = Backend.Service.local.word then
    .ok { shared with
      model := match s.model with
        | some (c :: rest) => some (c :: rest)
        | _ => some s.localModel
      baseUrl := some s.localHost }
  else
    (resolveKey environment s.apiKey (some s.apiKeyVariable)).map fun key =>
      { shared with apiKey := some key }

end Settings

end DocScribe
