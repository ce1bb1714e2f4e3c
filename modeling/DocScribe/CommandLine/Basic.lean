import DocScribe.CommandLine.Commands

/-!
# `DocScribe.CommandLine.Basic`: runs from beginning to end

A run reads what stands in front of the command, configures its log
and its terminal, reads the rest and does what is asked. It ends with
an exit status. What was not foreseen is shown as an error on the
standard output, whatever the command had chosen for its displays, unless
the standard output does not take that either.
-/

set_option autoImplicit false

namespace DocScribe.CommandLine

open Procedure

/-- Read the rest of a command line and do what it asks. -/
def dispatch (around : Surroundings) (front : Choices) (c : Command) (words : List Text) :
    Procedure Unit := do
  modify fun run => run.configure front
  log [Log.debug "logging_configured"]
  let request ← ofExcept (c.read (← get).workspace words)
  request.perform around front

/-- A command line from its first word on. A word that is no command
is first read as an option, in case it looks like one. -/
def perform (around : Surroundings) : List Text → Procedure Unit
  | [] => throw .nothingAsked
  | words => do
    let ws := (← get).workspace
    match ← ofExcept (readFront ws words) with
    | (_, []) => throw (.usage .missingCommand)
    | (front, word :: rest) =>
      match Command.ofWord? word with
      | some c => dispatch around front c rest
      -- Behind a separator a word may look like an option, and have a fault as one.
      | none => do
        let _ ← ofExcept (readFront ws (word :: rest))
        throw (.usage (.noSuchCommand word))

/-- The words that ask for details. -/
def asksForDetails (words : List Text) : Bool :=
  words.any OptionName.verbose.names.contains

/-- What a reason to stop still brings out. -/
def Stop.announce (words : List Text) (run : Run) : Stop → Run
  | .told content => run.emit [.document content]
  | .unexpected message =>
    -- The terminal and the stream of the run do not count here.
    let shown := Terminal.error ⟨false, false⟩ ("Unexpected error: " ++ message)
    match (putAll (shown.map (.shown .output))).on run with
    | (.ok (), said) =>
      if asksForDetails words then said.log [Log.error "cli_error"] else said
    -- The error about the error is left to the system, and with it the log line.
    | (.error _, said) => said
  | _ => run

/-- The end of a run: how far it has come, its exit status, and the
error if the command line is no request. -/
structure Ending where
  run : Run
  status : Nat
  usage : Option UsageError

/-- A run on a workspace, for the words of a command line. -/
def execute (around : Surroundings) (ws : Workspace) (words : List Text) : Ending :=
  match (perform around words).on { Run.start ws with outlet := around.outlet } with
  | (.ok (), run) => ⟨run, 0, none⟩
  | (.error stop, run) =>
    { run := stop.announce words run
      status := stop.status
      usage := match stop with
        | .usage e => some e
        | _ => none }

end DocScribe.CommandLine
