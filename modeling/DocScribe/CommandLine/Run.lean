import DocScribe.Backend.Basic
import DocScribe.CommandLine.Request
import DocScribe.Document.Timestamp
import DocScribe.Terminal.Control
import DocScribe.Terminal.Plain
import DocScribe.Text.Utf8

/-!
# `DocScribe.CommandLine.Run`: what a run changes and brings out

A run has a workspace, which it may change, and a terminal. What it
brings out is a list of emissions, the first one first: something
shown, a bar that shows how far the run has come, a log line, or a
document. Only documents are results that another program may read;
they always go to the standard output, and log lines never do. Where
things are shown is up to the command.

The standard output need not take everything: a text with a surrogate
has no bytes, and to print it fails. The error stream takes everything.

A procedure is a step of a run. It changes the run and has a result, or
it stops the run; what was brought out until then stays.
-/

set_option autoImplicit false

namespace DocScribe.CommandLine

/-- The two streams that a run writes to. -/
inductive Stream where
  | output
  | errors
deriving DecidableEq, Repr

/-- Something that a run brings out. A bar counts to a total and has a
description; what it looks like meanwhile depends on how long things
take, and is no part of it. -/
inductive Emission where
  | shown (stream : Stream) (display : Display)
  | progress (stream : Stream) (total : Nat) (description : Text)
  | logged (layout : Log.Layout) (entry : Log.Entry)
  | document (content : Text)
deriving DecidableEq

/-- The stream that an emission goes to. -/
def Emission.stream : Emission → Stream
  | .shown stream _ => stream
  | .progress stream _ _ => stream
  | .logged _ _ => .errors
  | .document _ => .output

/-- The texts of an emission. -/
def Emission.texts : Emission → List Text
  | .shown _ display => display.toLines
  | .progress _ _ description => [description]
  | .logged layout entry => [entry.toLine layout]
  | .document content => [content]

/-- What a standard output makes of an emission: it takes it, or refuses
it and says why. Texts that have bytes are taken. -/
structure Outlet where
  refusal? : Emission → Option Text
  takes (e : Emission) : (∀ t ∈ e.texts, Utf8.encodeError? t = none) → refusal? e = none

namespace Outlet

/-- The standard output that takes everything. -/
def unlimited : Outlet where
  refusal? _ := none
  takes _ _ := rfl

/-- What is said behind the fault of a display that cannot be shown. -/
def advice : Text :=
  "\n*** You may need to add PYTHONIOENCODING=utf-8 to your environment ***"

/-- What is said of an emission with a text that has no bytes. -/
def complaint (fault : Utf8.EncodeError) : Emission → Text
  | .document _ => fault.message
  | _ => fault.message ++ advice

/-- The standard output that is written as UTF-8. -/
def utf8 : Outlet where
  refusal? e := (e.texts.findSome? Utf8.encodeError?).map fun fault => complaint fault e
  takes e h := by
    rw [List.findSome?_eq_none_iff.mpr h]
    rfl

end Outlet

/-- What a service was asked: a prompt, or which models it has. -/
inductive Inquiry where
  | prompt (content : Text)
  | models
deriving DecidableEq

/-- What a run depends on besides its workspace: how the request of each
call is carried and how many turns each of them takes, what its standard
output takes, when the run takes place, and how many seconds it spends on
documentation. -/
structure Surroundings where
  transport : Nat → Backend.Transport
  outlet : Outlet
  patience : Backend.Service → Nat
  moment : Moment
  seconds : Double

/-- How far a run has come. -/
structure Run where
  workspace : Workspace
  terminal : Terminal
  outlet : Outlet
  stream : Stream
  threshold : Log.Level
  layout : Log.Layout
  emissions : List Emission
  backends : List Backend
  inquiries : List Inquiry

namespace Run

/-- The beginning of a run whose standard output takes everything. -/
def start (ws : Workspace) : Run :=
  { workspace := ws, terminal := ⟨false, false⟩, outlet := .unlimited, stream := .output
    threshold := .info, layout := .console, emissions := [], backends := [], inquiries := [] }

/-- What is said of an emission that does not get out. Whatever goes to
the error stream does. -/
def refusal? (run : Run) (e : Emission) : Option Text :=
  match e.stream with
  | .output => run.outlet.refusal? e
  | .errors => none

/-- The run with more emissions. -/
def emit (run : Run) (emissions : List Emission) : Run :=
  { run with emissions := run.emissions ++ emissions }

/-- The run with displays shown. -/
def display (run : Run) (displays : List Display) : Run :=
  run.emit (displays.map (.shown run.stream))

/-- The run with entries logged, as far as they pass the threshold. -/
def log (run : Run) (entries : List Log.Entry) : Run :=
  run.emit ((entries.filter (·.passes run.threshold)).map (.logged run.layout))

/-- The threshold for log lines. To be quiet counts before being
verbose, and either before the level. -/
def thresholdFor (quiet verbose : Bool) (level : Log.Level) : Log.Level :=
  if quiet then .error else if verbose then .debug else level

/-- The run with the choices in front of the command. -/
def configure (run : Run) (front : Choices) : Run :=
  { run with
    terminal := ⟨front.verbose, front.quiet⟩
    threshold := thresholdFor front.quiet front.verbose .info
    layout := .console }

/-- The run with its settings, which may make it quiet or verbose but
not take that back. -/
def settle (run : Run) (front : Choices) (settings : Settings) : Run :=
  { run with
    terminal := ⟨run.terminal.verbose || settings.verbose, run.terminal.quiet || settings.quiet⟩
    threshold := thresholdFor (front.quiet || settings.quiet) (front.verbose || settings.verbose)
      settings.logLevel
    layout := settings.logFormat }

end Run

/-- A step of a run. -/
abbrev Procedure := ExceptT Stop (StateM Run)

namespace Procedure

variable {α β : Type}

/-- What a procedure makes of a run: its result or the reason to stop,
and how far the run has come by then. -/
def on (p : Procedure α) (run : Run) : Except Stop α × Run :=
  p.run run

/-- Bring an emission out, or stop where it is refused. -/
def put (e : Emission) : Procedure Unit := do
  match (← get).refusal? e with
  | none => modify fun run => run.emit [e]
  | some message => throw (.unexpected message)

/-- Bring emissions out, up to the first that is refused. -/
def putAll : List Emission → Procedure Unit
  | [] => pure ()
  | e :: emissions => do
    put e
    putAll emissions

/-- Show what the terminal makes of something. -/
def tell (shown : Terminal → List Display) : Procedure Unit := do
  let run ← get
  putAll ((shown run.terminal).map (.shown run.stream))

/-- Show a bar that has counted to `total`, unless the terminal is to be
quiet. -/
def countTo (total : Nat) (description : Text) : Procedure Unit := do
  let run ← get
  putAll (if run.terminal.quiet then [] else [.progress run.stream total description])

def log (entries : List Log.Entry) : Procedure Unit :=
  modify fun run => run.log entries

/-- Bring a document out. Whatever reads it is no terminal and gets no
control sequences. -/
def bringOut (content : Text) : Procedure Unit :=
  put (.document (Control.dropSequences content))

/-- Stop with an error that is shown. -/
def fail (message : Text) : Procedure α := do
  tell (·.error message)
  throw (.exit 1)

/-! ### What procedures make of a run -/

/-- A value changes nothing. -/
@[simp] theorem on_pure (a : α) (run : Run) : (pure a : Procedure α).on run = (.ok a, run) := rfl

/-- A procedure goes on where the one before has ended; once stopped
nothing follows. -/
@[simp] theorem on_bind (p : Procedure α) (f : α → Procedure β) (run : Run) :
    (p >>= f).on run =
      match p.on run with
      | (.ok a, run') => (f a).on run'
      | (.error stop, run') => (.error stop, run') := by
  show (ExceptT.bindCont f (p run).1) (p run).2 = _
  unfold on
  rcases h : p run with ⟨_ | _, run'⟩
  · simp only [ExceptT.run, h]; rfl
  · simp only [ExceptT.run, h]; rfl

/-- To stop changes nothing either: what has been brought out stays. -/
@[simp] theorem on_throw (stop : Stop) (run : Run) :
    (throw stop : Procedure α).on run = (.error stop, run) := rfl

/-- The run can be looked at, which leaves it as it is. -/
@[simp] theorem on_get (run : Run) : (get : Procedure Run).on run = (.ok run, run) := rfl

/-- A change of the run always succeeds. -/
@[simp] theorem on_modify (f : Run → Run) (run : Run) :
    (modify f : Procedure Unit).on run = (.ok (), f run) := rfl

/-- The run can be replaced by another. -/
@[simp] theorem on_set (next run : Run) :
    (set next : Procedure PUnit).on run = (.ok (), next) := rfl

/-- A result that is known is taken over, whether it is a value or a
stop. -/
@[simp] theorem on_ofExcept (result : Except Stop α) (run : Run) :
    (ofExcept result : Procedure α).on run = (result, run) := by
  cases result <;> rfl

/-- Log lines never stop a run: `Run.log` decides by itself which of them
are brought out. -/
@[simp] theorem on_log (entries : List Log.Entry) (run : Run) :
    (log entries).on run = (.ok (), run.log entries) := rfl

/-- An emission is brought out if it is taken, and stops the run if it is
not. -/
theorem on_put (e : Emission) (run : Run) :
    (put e).on run =
      match run.refusal? e with
      | none => (.ok (), run.emit [e])
      | some message => (.error (.unexpected message), run) := by
  rw [put, on_bind, on_get]
  dsimp only
  cases run.refusal? e <;> rfl

end Procedure

end DocScribe.CommandLine
