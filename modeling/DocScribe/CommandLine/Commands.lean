import DocScribe.CommandLine.Generate
import DocScribe.Document.Archive

/-!
# `DocScribe.CommandLine.Commands`: what the other commands do

Documentation that was kept as an archive is rendered again, a file of
settings is made, a backend is tried out, and the program says what it
is.
-/

set_option autoImplicit false

namespace DocScribe.CommandLine

open Procedure

namespace Render

/-- The documentation in a file, or what is said of a file that is out
of reach or holds none. -/
def readArchive (ws : Workspace) (input : Path) : Except Stop (Except Text (List FileDoc)) :=
  match ws.readText input with
  | .error fault =>
    if fault.isRefusal then .ok (.error fault.message) else .error (.unexpected fault.message)
  | .ok text => .ok ((Archive.load text).mapError Rejection.message)

/-- Write a document to where it was asked for. -/
def writeTo (path : Path) (content : Text) (count : Nat) : Procedure Unit := do
  let run ← get
  let written := Document.writeBelow run.workspace path content
  set { run with workspace := written.1 }
  match written.2 with
  | .error fault => throw (.unexpected fault.message)
  | .ok () =>
    log [Log.info "documentation_rendered"]
    tell (·.success ("Rendered " ++ Text.ofNat count ++ " file(s) to " ++ path.toText))

/-- Render an archive again, as Markdown unless another format is
asked for. -/
def render (around : Surroundings) (choices : Choices) (input : Path) : Procedure Unit := do
  match ← ofExcept (readArchive (← get).workspace input) with
  | .error message =>
    log [Log.error "render_input_invalid"]
    fail ("Cannot read documentation from " ++ input.toText ++ ": " ++ message)
  | .ok docs =>
    let content ← Generate.documentOf around (choices.format.getD .markdown) docs
    match choices.outputFile with
    | none => bringOut content
    | some path => writeTo path content docs.length

end Render

/-- Make a file of settings. One that is there already stays as it
is. -/
def makeSettings (path : Path) : Procedure Unit := do
  let run ← get
  let made := Settings.createFile run.workspace path
  set { run with workspace := made.1 }
  match made.2 with
  | .ok () =>
    tell (·.success ("Created configuration file: " ++ path.toText))
    tell (·.info "Edit the file to customize settings for your project")
  | .error (.exists _) => fail ("Configuration file already exists: " ++ path.toText)
  | .error (.file fault) =>
    if fault.isRefusal then fail ("Failed to create configuration: " ++ fault.message)
    else throw (.unexpected fault.message)
  | .error fault => throw (.unexpected fault.message)

namespace Connection

/-- What a trial is logged as that ended in an error. -/
def reportFailure {α : Type} (e : Backend.BackendError) : Procedure α := do
  tell (·.error ("Connection test failed: " ++ e.message))
  log [Log.error "connection_test_failed"]
  throw (.exit 1)

/-- The inquiry that a request makes. -/
def inquiryOf : Backend.Request → Inquiry
  | .completion _ => .prompt Backend.trialPrompt
  | .listing => .models

/-- Try out a backend: whether it has answered. -/
def attempt (around : Surroundings) (backend : Backend) : Procedure Bool := do
  -- The only request of the run is that of its first call.
  let exchange := backend.testConnection (around.transport 0)
  log exchange.before
  modify fun run =>
    { run with inquiries := run.inquiries ++ exchange.request.toList.map inquiryOf }
  log exchange.after
  match exchange.outcome with
  | none => throw .interrupted
  | some (.ok answered) => pure answered
  | some (.error (.backend e)) => reportFailure e
  | some (.error e) => throw (.unexpected e.message)

/-- Try out the backend of the settings. -/
def test (around : Surroundings) (front choices : Choices) : Procedure Unit := do
  let settings ← Generate.loadSettings front choices.overrides
  let config ← Generate.configOf settings
  tell (·.info ("Testing connection to " ++ config.provider ++ "..."))
  let created := Backend.create config
  log (Log.info "testing_connection" :: created.1)
  match created.2 with
  | .error e => reportFailure e
  | .ok backend =>
    modify fun run => { run with backends := run.backends ++ [backend] }
    if ← attempt around backend then
      log [Log.info "connection_test_passed"]
      tell (·.success ("Successfully connected to " ++ config.provider ++ " with model "
        ++ backend.model))
    else
      log [Log.error "connection_test_failed_no_result"]
      fail "Connection test failed"

end Connection

/-- What the program says of itself, whether it is to be quiet or
not. -/
def aboutLines : List Text :=
  [programName ++ " version " ++ programVersion, "\nAI-powered API documentation generator",
    "\nOutput formats: Markdown, HTML, JSON", "Supported providers: OpenAI, Ollama"]

/-- Say what the program is. -/
def showAbout : Procedure Unit :=
  tell fun _ => aboutLines.map .line

/-- Do what is asked. -/
def Request.perform (around : Surroundings) (front : Choices) : Request → Procedure Unit
  | .generate choices paths => Generate.generate around front choices paths
  | .render choices input => Render.render around choices input
  | .init path => makeSettings path
  | .testConnection choices => Connection.test around front choices
  | .version => showAbout

end DocScribe.CommandLine
