import DocScribe.Decimal.Notation
import DocScribe.Json.Display
import DocScribe.Language
import DocScribe.Record.Basic
import DocScribe.Terminal.Markup

/-!
# `DocScribe.Terminal.Basic`: what a person sees of a run

Status lines, panels and tables. Each function says what is shown, as
a list: nothing, if the terminal is to be quiet. Errors and the table
of failed files are shown in any case. Documents never pass through
here.

The last section has the calls of a terminal as data, with what each of
them shows or is wrong with, and what is received of one call after the
other.
-/

set_option autoImplicit false

namespace DocScribe

/-- What stands inside a panel. -/
inductive PanelBody where
  | text (content : Text)
  | rows (rows : List (Text × Text))
deriving DecidableEq

/-- Something that is shown. -/
inductive Display where
  | line (content : Text)
  | panel (title subtitle : Option Text) (body : PanelBody)
  | table (title : Text) (columns : List Text) (rows : List (List Text))
deriving DecidableEq

/-- How much is shown. -/
structure Terminal where
  verbose : Bool
  quiet : Bool
deriving DecidableEq

namespace Terminal

open Markup (plain escape)

/-- What is shown unless the terminal is quiet. -/
def unlessQuiet (t : Terminal) (shown : List Display) : List Display :=
  if t.quiet then [] else shown

/-! ### Status lines -/

/-- A message behind a marker. -/
def status (marker message : Text) : Display :=
  .line (plain (marker ++ " " ++ escape message))

def info (t : Terminal) (message : Text) : List Display :=
  t.unlessQuiet [status "[blue]i[/blue]" message]

def success (t : Terminal) (message : Text) : List Display :=
  t.unlessQuiet [status "[green]✓[/green]" message]

def warning (t : Terminal) (message : Text) : List Display :=
  t.unlessQuiet [status "[yellow]![/yellow]" message]

/-- Errors are shown in any case. -/
def error (_ : Terminal) (message : Text) : List Display :=
  [status "[red]✗[/red]" message]

/-- Details are shown to whoever asked for them. -/
def debug (t : Terminal) (message : Text) : List Display :=
  if t.verbose then [.line (plain ("[dim]" ++ escape message ++ "[/dim]"))] else []

/-! ### Panels and tables -/

/-- The name of the program and what it is for. -/
def banner (t : Terminal) : List Display :=
  t.unlessQuiet
    [.panel none none (.text "apidocgen\nAI-Powered API Documentation Generator")]

/-- A heading in bold. -/
def heading (content : Text) : Text :=
  plain ("[bold cyan]" ++ content ++ "[/bold cyan]")

/-- One line of the summary of a file. -/
def countLine (entry : Text × Nat) : Text :=
  entry.1 ++ ": " ++ Text.ofNat entry.2

/-- How much was documented of a file. -/
def fileSummary (t : Terminal) (doc : FileDoc) : List Display :=
  t.unlessQuiet
    [.panel (some (heading (escape doc.displayName)))
      (some (plain (escape (doc.filePath.getD []))))
      (.text (Text.joinWith "\n" (doc.sectionCounts.map countLine)))]

/-- A file that failed: its path, what kind of error it was, and what
that says. -/
structure Failure where
  path : Text
  stage : Text
  reason : Text
deriving DecidableEq

/-- The row of a failed file. -/
def Failure.row (f : Failure) : List Text :=
  [plain (escape f.path), plain f.stage, plain (escape f.reason)]

/-- The files that failed, shown in any case. -/
def failures (_ : Terminal) : List Failure → List Display
  | [] => []
  | failed => [.table "Failed Files" ["File", "Stage", "Reason"] (failed.map Failure.row)]

/-- The row that says where the document went. -/
def outputRow : Option Text → List (Text × Text)
  | none => []
  | some path => [("Output", plain (escape path))]

/-- The rows with the numbers of a run. -/
def numberRows (docs : List FileDoc) (failed : Nat) (seconds : Double) : List (Text × Text) :=
  [("Files", Text.ofNat (docs.length + failed)), ("Documented", Text.ofNat docs.length),
    ("Failed", Text.ofNat failed), ("Entries", Text.ofNat (total (docs.map FileDoc.entryCount))),
    ("Duration", seconds.toPlaces 2 ++ "s")]

/-- The outcome of a run. -/
def statistics (t : Terminal) (docs : List FileDoc) (failed : Nat) (seconds : Double)
    (output : Option Text) : List Display :=
  t.unlessQuiet
    [.panel (some "Summary") none (.rows (numberRows docs failed seconds ++ outputRow output))]

/-! ### Settings -/

/-- The settings that are shown in part only. -/
def secretNames : List Text := ["api_key"]

/-- A secret: its last four code points, if that is less than half of
it. -/
def masked (value : Json) : Text :=
  let shown := value.display
  if 8 < shown.length then "..." ++ shown.drop (shown.length - 4) else "***"

/-- What is shown of a setting. -/
def settingText (entry : Text × Json) : Text :=
  if secretNames.contains entry.1 ∧ entry.2.isTruthy then masked entry.2 else entry.2.display

/-- The row of a setting. Its name is taken as marked up. -/
def settingRow (entry : Text × Json) : Except Markup.Fault (List Text) :=
  (Markup.shown entry.1).map fun name => [name, plain (escape (settingText entry))]

/-- The settings in the order of their names. -/
def settings (t : Terminal) (entries : List (Text × Json)) :
    Except Markup.Fault (List Display) :=
  if t.quiet then .ok []
  else
    ((entries.mergeSort fun a b => Text.le a.1 b.1).mapM settingRow).map fun rows =>
      [.table "Effective Configuration" ["Key", "Value"] rows]

/-! ### Files -/

def fileRow (number : Nat) (path : Path) : List Text :=
  [Text.ofNat number, plain (escape path.toText), Language.ofPath path]

/-- Rows for files, counted from `number`. -/
def fileRows : Nat → List Path → List (List Text)
  | _, [] => []
  | number, path :: paths => fileRow number path :: fileRows (number + 1) paths

/-- The files about to be documented. -/
def fileList (t : Terminal) (paths : List Path) : List Display :=
  t.unlessQuiet
    [.table (Text.ofNat paths.length ++ " source file(s)") ["#", "Path", "Language"]
      (fileRows 1 paths)]

/-! ### Calls

A terminal is asked for one thing at a time, and decides each time what it
shows. A status line may be forced, and is then shown by a quiet terminal
too. Errors are forced already, and to ask for that is a mistake.

Whoever asks for a line may also say how it is to be laid out. That changes
nothing about whether it is shown, and is no part of a call here. -/

/-- The kinds of status lines. -/
inductive Mark where
  | info
  | success
  | warning
  | error
deriving DecidableEq, Repr

/-- What stands in front of a line of a kind. -/
def Mark.marker : Mark → Text
  | .info => "[blue]i[/blue]"
  | .success => "[green]✓[/green]"
  | .warning => "[yellow]![/yellow]"
  | .error => "[red]✗[/red]"

/-- A status line, unless the terminal is quiet and the line not forced. -/
def say (t : Terminal) (mark : Mark) (message : Text) (isForced : Bool) : List Display :=
  if t.quiet && !isForced then [] else [status mark.marker message]

/-- Something that a terminal is asked for. -/
inductive Call where
  | line (mark : Mark) (message : Text) (force : Option Bool)
  | debug (message : Text)
  | banner
  | fileSummary (doc : FileDoc)
  | failures (failed : List Failure)
  | statistics (docs : List FileDoc) (failed : Nat) (seconds : Double) (output : Option Text)
  | settings (entries : List (Text × Json))
  | fileList (paths : List Path)

namespace Call

/-- What is wrong with a call. -/
inductive Fault where
  | markup (fault : Markup.Fault)
  | forcedTwice

/-- Whether a line of a kind is forced, by its kind or by the call. -/
def isForced : Mark → Option Bool → Except Fault Bool
  | .error, none => .ok true
  | .error, some _ => .error .forcedTwice
  | _, force => .ok (force.getD false)

/-- What a terminal shows when it is called. -/
def shownOn (t : Terminal) : Call → Except Fault (List Display)
  | .line mark message force => (isForced mark force).map (t.say mark message)
  | .debug message => .ok (t.debug message)
  | .banner => .ok t.banner
  | .fileSummary doc => .ok (t.fileSummary doc)
  | .failures failed => .ok (t.failures failed)
  | .statistics docs failed seconds output => .ok (t.statistics docs failed seconds output)
  | .settings entries => (t.settings entries).mapError .markup
  | .fileList paths => .ok (t.fileList paths)

/-- The status lines that nobody forces. -/
def usualLine (t : Terminal) (message : Text) : Mark → List Display
  | .info => t.info message
  | .success => t.success message
  | .warning => t.warning message
  | .error => t.error message

/-- A status line that is not forced is shown as its mark has it:
information, success and warnings only where the terminal is not quiet,
errors always. -/
theorem shownOn_line (t : Terminal) (mark : Mark) (message : Text) :
    shownOn t (.line mark message none) = .ok (usualLine t message mark) := by
  cases mark <;> cases hquiet : t.quiet <;>
    simp [shownOn, isForced, say, usualLine, info, success, warning, error, unlessQuiet,
      Except.map, Mark.marker, hquiet]

end Call

/-- What a terminal shows, called once after the other. A call that is wrong
shows nothing. -/
def received (t : Terminal) (calls : List Call) : List Display :=
  calls.flatMap fun call => (call.shownOn t).toOption.getD []

end Terminal

end DocScribe
