import DocScribe.Settings.Fault
import DocScribe.Toml.Reader
import DocScribe.Workspace.Basic

/-!
# `DocScribe.Settings.File`: settings in files

Three files may hold settings: one beside the sources that is made for
it, a project file with a table for it, and one in the user's home.
The first of them that is there counts. A project file counts only if
its table is there, and one that cannot be read is passed over.
-/

set_option autoImplicit false

namespace DocScribe.Settings

/-- The file that is made for settings. -/
def fileName : Text := "apidocgen.toml"

/-- The project file. -/
def projectFileName : Text := "pyproject.toml"

/-- The table that holds settings. -/
def tableName : Text := "apidocgen"

/-- The table of a project file that tables of tools are in. -/
def toolsName : Text := "tool"

/-- The members of a file. -/
def readMembers (ws : Workspace) (path : Path) : Except Fault Toml.Members := do
  let bytes ← (ws.readBytes path).mapError .file
  let text ← (Utf8.decode bytes).mapError fun e => Fault.file (.unreadable e)
  match Toml.read text with
  | .ok members => pure members
  | .error .malformed => throw (.malformed path.toText)
  | .error (.integerTooLong digits) => throw (.integerTooLong digits)
  | .error .nestingTooDeep => throw .fileTooDeep

/-- The tools of a project file. -/
def toolsOf (members : Toml.Members) : Toml :=
  (members.get? toolsName).getD (.table [])

/-- Whether a value has the table for settings: as a key, as an item,
or as a part of a text. -/
def mentions (value : Toml) : Except Fault Bool :=
  match value with
  | .table members => .ok (Toml.Members.has members tableName)
  | .list items => .ok (items.any fun item =>
      match item with
      | .text t => t == tableName
      | _ => false)
  | .text t => .ok (Text.occursIn tableName t)
  | other => .error (.notSearchable other.typeName)

/-- Whether a project file has the table for settings. -/
def projectCounts (ws : Workspace) (path : Path) : Except Fault Bool :=
  match readMembers ws path with
  | .ok members => mentions (toolsOf members)
  | .error (.malformed _) => .ok false
  | .error (.file (.refused _ _)) => .ok false
  | .error fault => .error fault

/-- The file that holds the settings, if one does. -/
def findFile (ws : Workspace) : Except Fault (Option Path) := do
  let here : Path := ⟨.root, ws.current⟩
  let own := here.join (Path.ofText fileName)
  if ← (ws.isFile? own).mapError .file then pure (some own)
  else
    let project := here.join (Path.ofText projectFileName)
    -- A project file without the table is passed over, so that the one in the home may count.
    let counts ←
      if ← (ws.isFile? project).mapError .file then projectCounts ws project else pure false
    if counts then pure (some project)
    else
      match ws.home with
      | .unset => pure none
      | .unclear => throw .noHome
      | .folder home =>
        let user := home.join (Path.ofText ".config/apidocgen/config.toml")
        pure (if ← (ws.isFile? user).mapError .file then some user else none)

/-- The value that holds the settings of a file. -/
def settingsIn (path : Path) (members : Toml.Members) : Except Fault Toml :=
  if path.name = projectFileName then
    match toolsOf members with
    | .table tools => .ok ((Toml.Members.get? tools tableName).getD (.table []))
    | other => .error (.noMembers other.typeName)
  -- In a file of its own the table may be left out.
  else .ok ((members.get? tableName).getD (.table members))

/-- The value that holds the settings of the file at a path. -/
def readValue (ws : Workspace) (path : Path) : Except Fault Toml := do
  if !(← (ws.exists? path).mapError .file) then throw (.notFound path.toText)
  settingsIn path (← readMembers ws path)

/-- The entries of the file at a path. -/
def fileEntries (ws : Workspace) (path : Path) : Except Fault (List (PairsKey × Toml)) := do
  ((← readValue ws path).toEntries).mapError .notTable

/-- The settings of the file at a path, by their names. There has to be
a path. -/
def fileMembers (ws : Workspace) : Option Path → Except Fault Toml.Members
  | some path => (fileEntries ws path).map Toml.byWritten
  | none => .error .noFile

/-- The lines of a new file of settings that are about providers. -/
def providerLines : List Text :=
  ["# apidocgen configuration",
    "",
    "[apidocgen]",
    "# LLM provider: openai or ollama",
    "provider = \"openai\"",
    "",
    "# Model name; leave unset for the provider default (gpt-4 / llama2)",
    "# model = \"gpt-4\"",
    "",
    "# API key for the hosted provider. Either the key itself or the name of an",
    "# environment variable holding it. Leave unset to read api_key_env.",
    "# api_key = \"OPENAI_API_KEY\"",
    "api_key_env = \"OPENAI_API_KEY\"",
    "",
    "# Local inference (provider = \"ollama\")",
    "ollama_host = \"http://localhost:11434\"",
    "ollama_model = \"llama2\"",
    "",
    "temperature = 0.1",
    "max_tokens = 4000",
    "# timeout = 120",
    ""]

/-- The lines of a new file of settings that are about documents and
runs. -/
def runLines : List Text :=
  ["# Output: markdown, html or json",
    "output_format = \"markdown\"",
    "output_dir = \"docs\"",
    "include_examples = true",
    "",
    "# Extra gitignore-style patterns to skip (dot directories and",
    "# node_modules are always skipped)",
    "exclude_patterns = []",
    "",
    "# Files documented at the same time",
    "concurrency = 1",
    "",
    "# Logging",
    "verbose = false",
    "quiet = false",
    "log_level = \"INFO\"",
    "log_format = \"console\"",
    ""]

/-- A new file of settings: every setting with its default. -/
def template : Text :=
  Text.joinWith "\n" (providerLines ++ runLines)

/-- Write a new file of settings. -/
def createFile (ws : Workspace) (path : Path) : Workspace × Except Fault Unit :=
  match ws.exists? path with
  | .error fault => (ws, .error (.file fault))
  | .ok true => (ws, .error (.exists path.toText))
  | .ok false =>
    match ws.writeText path template with
    | (ws', result) => (ws', result.mapError .file)

end DocScribe.Settings
