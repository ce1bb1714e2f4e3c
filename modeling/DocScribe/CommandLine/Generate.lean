import DocScribe.CommandLine.Run
import DocScribe.Discovery
import DocScribe.Document.Publication
import DocScribe.Document.Rendering
import DocScribe.Generation.Turns

/-!
# `DocScribe.CommandLine.Generate`: documenting source files

The command that the program is for. It loads the settings, finds the
source files, each of them once, has them documented, and writes one
document for those that could be. A file that could not be documented
does not keep the others from it, but shows in the exit status.

With the document on the standard output everything else is shown on
the error stream.
-/

set_option autoImplicit false

namespace DocScribe.CommandLine.Generate

open Procedure

/-- Load the settings; whatever makes them invalid ends the run. -/
def loadSettings (front : Choices) (overrides : Settings.Values) : Procedure Settings := do
  log [Log.debug "loading_configuration"]
  match Settings.load (← get).workspace front.configFile overrides with
  | .ok settings =>
    modify fun run => run.settle front settings
    pure settings
  | .error (.words (.stopped status)) => throw (.exit status)
  | .error fault =>
    if fault.isInvalid then
      tell (·.error ("Invalid configuration: " ++ fault.message))
      log [Log.error "configuration_invalid"]
      throw (.exit 1)
    else throw (.unexpected fault.message)

/-- The files with those found besides, each of them once. -/
def addNew (files found : List Path) : List Path :=
  found.foldl (fun files path => if files.contains path then files else files ++ [path]) files

/-- The source files at some paths besides those known already. -/
def discover (lines : List Text) : List Path → List Path → Procedure (List Path)
  | files, [] => pure files
  | files, path :: paths => do
    let found := Discovery.find (← get).workspace path lines
    log found.1
    match found.2 with
    | .ok more => discover lines (addNew files more) paths
    | .error e => throw (.unexpected e.message)

/-- Whether a backend is asked for that cannot do without a key, and
there is none. -/
def lacksKey (config : Backend.Config) : Bool :=
  config.provider == Backend.Service.hosted.word && (config.apiKey.getD []).isEmpty

/-- What a backend needs to know of the settings. -/
def configOf (settings : Settings) : Procedure Backend.Config := do
  match settings.backendConfig (← get).workspace.environment with
  | .ok config => pure config
  | .error e => throw (.unexpected e.message)

/-- The backend of the settings. -/
def createBackend (settings : Settings) : Procedure Backend := do
  let config ← configOf settings
  let created := Backend.create config
  log (Log.info "initializing_generator" :: created.1)
  match created.2 with
  | .error e =>
    log [Log.error "generator_initialization_failed"]
    fail ("Failed to initialize LLM provider: " ++ e.message)
  | .ok backend =>
    modify fun run => { run with backends := run.backends ++ [backend] }
    -- A backend can be made without its key; the run ends before it is asked anything.
    if lacksKey config then
      log [Log.error "api_key_missing"]
      fail ("No API key configured. Set " ++ settings.apiKeyVariable ++ " or pass --api-key")
    else
      tell (·.success ("Using " ++ config.provider ++ " provider with model " ++ backend.model))
      pure backend

/-- The batch that documents files with a backend. -/
def batchFor (around : Surroundings) (ws : Workspace) (settings : Settings) (files : List Path) :
    Batch :=
  { connect := Generation.Provider.ofBackend around.transport
    workspace := ws
    includeExamples := settings.includeExamples
    limit := settings.concurrency.toNat
    paths := files }

/-- What stands beside the bar in the end: the last file that there was a
result for. -/
def lastDone (files : List Path) (reports : List (Nat × Except GenerationError FileDoc)) : Text :=
  match reports.getLast? with
  | none => "Generating documentation..."
  | some report => "Documented " ++ ((files[report.1]?).map Path.name).getD []

/-- Have the files documented. -/
def documentFiles (around : Surroundings) (settings : Settings) (backend : Backend)
    (files : List Path) : Procedure Batch.Report := do
  log [Log.info "starting_file_processing"]
  let batch := batchFor around (← get).workspace settings files
  -- The generator has its provider already, so that no file waits for one to be made.
  let conclusion := batch.run (around.patience backend.service)
    ⟨some (.ofBackend around.transport backend), none⟩
  -- What was asked and logged stays, also if the batch breaks down.
  modify fun run => { run with inquiries := run.inquiries ++ conclusion.prompts.map .prompt }
  log conclusion.log
  countTo files.length (Markup.plain (lastDone files conclusion.reports))
  match conclusion.report with
  | .ok report => pure report
  | .error .interrupted => throw .interrupted
  | .error breakdown => throw (.unexpected breakdown.message)

/-- How the failure of a file is shown. -/
def shownFailure (failure : Text × GenerationError) : Terminal.Failure :=
  ⟨failure.1, failure.2.cause.typeName, failure.2.cause.message⟩

/-- One line for the failure of a file. -/
def failureLine (failure : Text × GenerationError) : Text :=
  failure.1 ++ ": " ++ failure.2.cause.message

/-- Show the failures, and to whoever wants to know more also what
became of each file. -/
def showResults (report : Batch.Report) : Procedure Unit := do
  tell fun t => report.failures.flatMap fun failure => t.error (failureLine failure)
  tell fun t =>
    if t.verbose then
      report.docs.flatMap t.fileSummary ++ t.failures (report.failures.map shownFailure)
    else []

/-- What is said of a moment that has no text. -/
def noSuchMoment : Text := "date value out of range"

/-- The document of some files, at the moment of the run. -/
def documentOf (around : Surroundings) (format : Format) (docs : List FileDoc) : Procedure Text :=
  match Document.renderAt? format around.moment docs with
  | some content => pure content
  | none => throw (.unexpected noSuchMoment)

/-- Write the document into its folder. -/
def writeDocument (settings : Settings) (content : Text) : Procedure Path := do
  let run ← get
  let written := Document.publish run.workspace content settings.outputFolder
    settings.outputFormat.word false
  set { run with workspace := written.1 }
  log written.2.1
  match written.2.2 with
  | .error fault => throw (.unexpected fault.message)
  | .ok path =>
    tell (·.success ("Documentation written to " ++ path.toText))
    pure path

/-- Bring the document out or write it, if there is anything to
document. The path is where it was written. -/
def publish (around : Surroundings) (settings : Settings) (toOutput : Bool)
    (docs : List FileDoc) : Procedure (Option Path) := do
  if docs.isEmpty then
    tell (·.warning "No documentation was generated")
    pure none
  else
    let content ← documentOf around settings.outputFormat docs
    if toOutput then
      bringOut content
      pure none
    else
      pure (some (← writeDocument settings content))

/-- Document the files, which are not none. -/
def process (around : Surroundings) (settings : Settings) (toOutput : Bool) (files : List Path) :
    Procedure Unit := do
  tell (·.fileList files)
  let backend ← createBackend settings
  let report ← documentFiles around settings backend files
  showResults report
  let path ← publish around settings toOutput report.docs
  log [Log.info "processing_complete"]
  tell fun t => t.statistics report.docs report.failures.length around.seconds
    (path.map Path.toText)
  if report.hasFailures then throw (.exit 1)

/-- Show the settings to whoever wants details. -/
def showSettings (settings : Settings) : Procedure Unit := do
  let terminal := (← get).terminal
  if terminal.verbose then
    match terminal.settings settings.shownEntries with
    | .ok shown => tell fun _ => shown
    | .error fault => throw (.unexpected fault.message)

/-- Document the source files at some paths. -/
def generate (around : Surroundings) (front choices : Choices) (paths : List Path) :
    Procedure Unit := do
  -- What is shown from here on must not mix with the document.
  if choices.toOutput then modify fun run => { run with stream := .errors }
  tell (·.banner)
  let settings ← loadSettings front choices.overrides
  showSettings settings
  tell (·.info ("Scanning " ++ Text.ofNat paths.length ++ " path(s)..."))
  let files ← discover settings.excludePatterns [] paths
  if files.isEmpty then tell (·.warning "No supported source files found")
  else process around settings choices.toOutput files

end DocScribe.CommandLine.Generate
