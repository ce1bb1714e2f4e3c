import DocScribe.CommandLine.Generate
import DocScribe.Proofs.CommandLine.Steps

/-!
# `DocScribe.Proofs.CommandLine.Emitting`: what the steps of a run bring out

A step keeps a condition on where and how things are shown, and brings
out nothing but what is allowed (`Procedure.Emits`). Steps one behind the
other do so if each of them does (`Emits.bind`), so a whole command is
taken apart like its definition.

The command that documents source files is taken apart once, for all
conditions that fit what it asks of its terminal (`Generate.Admits`). Once
its settings are loaded it has no other way to change how things are shown,
so what holds then holds to the end (`Generate.emits_afterSettings`).

One such condition is that displays are directed to the error stream. From
then on a document is the only thing that any step brings out on the
standard output (`Generate.KeepsToErrors`).
-/

set_option autoImplicit false

namespace DocScribe.CommandLine

namespace Procedure

variable {α β : Type} {keeps : Stream → Terminal → Prop} {allows : Emission → Prop}

/-- In runs whose stream and terminal are as said, the step keeps them so,
and what it brings out is allowed. -/
def Emits (keeps : Stream → Terminal → Prop) (allows : Emission → Prop) (p : Procedure α) : Prop :=
  ∀ run, keeps run.stream run.terminal →
    keeps (p.on run).2.stream (p.on run).2.terminal
      ∧ ∃ more, (p.on run).2.emissions = run.emissions ++ more ∧ ∀ e ∈ more, allows e

/-- A step that brings out nothing is allowed whatever the condition is, if
it keeps the stream and the terminal as they have to be. -/
theorem emits_of_silent {p : Procedure α}
    (hkeeps : ∀ run, keeps run.stream run.terminal →
      keeps (p.on run).2.stream (p.on run).2.terminal)
    (h : ∀ run, (p.on run).2.emissions = run.emissions) : p.Emits keeps allows :=
  fun run hrun => ⟨hkeeps run hrun, [], (h run).trans (List.append_nil _).symm,
    List.forall_mem_nil _⟩

/-- A value brings out nothing. -/
theorem emits_pure (a : α) : (pure a : Procedure α).Emits keeps allows :=
  emits_of_silent (fun _ h => h) fun _ => rfl

/-- To stop brings out nothing. -/
theorem emits_throw (stop : Stop) : (throw stop : Procedure α).Emits keeps allows :=
  emits_of_silent (fun _ h => h) fun _ => rfl

/-- To look at the run brings out nothing. -/
theorem emits_get : (get : Procedure Run).Emits keeps allows :=
  emits_of_silent (fun _ h => h) fun _ => rfl

/-- One step behind the other. Where the first stops the run, the second has
no part in it. -/
theorem Emits.bind {p : Procedure α} {f : α → Procedure β} (hp : p.Emits keeps allows)
    (hf : ∀ a, (f a).Emits keeps allows) : (p >>= f).Emits keeps allows := by
  intro run hrun
  obtain ⟨hkept, more, hmore, hallowed⟩ := hp run hrun
  rw [on_bind]
  rcases hfirst : p.on run with ⟨a | a, between⟩
  · -- Behind a step that stops nothing follows.
    rw [hfirst] at hkept hmore
    exact ⟨hkept, more, hmore, hallowed⟩
  · rw [hfirst] at hkept hmore
    obtain ⟨hkept', more', hmore', hallowed'⟩ := hf a between hkept
    refine ⟨hkept', more ++ more', ?_, List.forall_mem_append.mpr ⟨hallowed, hallowed'⟩⟩
    rw [hmore', hmore, List.append_assoc]

/-- Of emissions that are allowed a run brings out a first part, and that is
allowed whichever of them is refused. -/
theorem emits_putAll {run : Run} {emissions : List Emission}
    (hrun : keeps run.stream run.terminal) (h : ∀ e ∈ emissions, allows e) :
    keeps ((putAll emissions).on run).2.stream ((putAll emissions).on run).2.terminal
      ∧ ∃ more, ((putAll emissions).on run).2.emissions = run.emissions ++ more
        ∧ ∀ e ∈ more, allows e := by
  rcases hput : (putAll emissions).on run with ⟨result, run'⟩
  rcases putAll_cases hput with ⟨-, rfl⟩ | ⟨out, e, rest, message, rfl, rfl, -, -⟩
  · exact ⟨hrun, emissions, rfl, h⟩
  · exact ⟨hrun, out, rfl, fun e' he' => h e' (List.mem_append_left _ he')⟩

/-- Displays are allowed if those are that the terminal makes of the call.
That some of them may be refused is no matter, since then there are
fewer. -/
theorem emits_tell {shown : Terminal → List Display}
    (h : ∀ stream terminal, keeps stream terminal →
      ∀ display ∈ shown terminal, allows (.shown stream display)) :
    (tell shown).Emits keeps allows := by
  intro run hrun
  rw [tell, on_bind_of_ok (on_get run)]
  exact emits_putAll hrun (List.forall_mem_map.mpr (h run.stream run.terminal hrun))

/-- A bar is shown by terminals that are not to be quiet, and by no
others. -/
theorem emits_countTo {total : Nat} {description : Text}
    (h : ∀ stream terminal, keeps stream terminal → terminal.quiet = false →
      allows (.progress stream total description)) :
    (countTo total description).Emits keeps allows := by
  intro run hrun
  rw [countTo, on_bind_of_ok (on_get run)]
  refine emits_putAll hrun fun e he => ?_
  cases hquiet : run.terminal.quiet with
  | true => simp [hquiet] at he
  | false =>
      simp only [hquiet, Bool.false_eq_true, if_false, List.mem_singleton] at he
      rw [he]
      exact h _ _ hrun hquiet

/-- Log lines never fail, but not all of them pass the threshold. It is
asked of all of them, which is more than is needed. -/
theorem emits_log {entries : List Log.Entry}
    (h : ∀ layout, ∀ entry ∈ entries, allows (.logged layout entry)) :
    (log entries).Emits keeps allows :=
  fun run hrun => ⟨hrun, _, rfl, List.forall_mem_map.mpr fun entry hentry =>
    h run.layout entry (List.mem_filter.mp hentry).1⟩

/-- A document is brought out without its control sequences, if at all:
where it is refused nothing of it is. -/
theorem emits_bringOut {content : Text}
    (h : allows (.document (Control.dropSequences content))) :
    (bringOut content).Emits keeps allows := by
  intro run hrun
  rcases hput : (bringOut content).on run with ⟨result, run'⟩
  rcases bringOut_cases hput with ⟨-, rfl⟩ | ⟨message, -, rfl, -⟩
  · exact ⟨hrun, _, rfl, List.forall_mem_singleton.mpr h⟩
  · exact ⟨hrun, [], (List.append_nil _).symm, List.forall_mem_nil _⟩

end Procedure

namespace Generate

open Procedure

/-- The calls that the command makes. No line is forced, and nobody asks
for details; what is known of single files is left to whoever wants more. -/
def isMade (verbose : Bool) : Terminal.Call → Bool
  | .line _ _ force => force.isNone
  | .debug _ => false
  | .fileSummary _ => verbose
  | .failures _ => verbose
  | .settings _ => verbose
  | _ => true

/-- What is left to do once the files have changed. -/
def afterPublishing (entries : List Log.Entry) (written : Except FileFault Path) :
    Procedure Path := do
  log entries
  match written with
  | .error fault => throw (.unexpected fault.message)
  | .ok path =>
    tell (·.success ("Documentation written to " ++ path.toText))
    pure path

/-- Writing a document changes the files, and the rest is done behind that:
the message, or the error. -/
theorem writeDocument_on {settings : Settings} {content : Text} {run : Run} {ws : Workspace}
    {entries : List Log.Entry} {written : Except FileFault Path}
    (h : Document.publish run.workspace content settings.outputFolder settings.outputFormat.word
      false = (ws, entries, written)) :
    (writeDocument settings content).on run
      = (afterPublishing entries written).on { run with workspace := ws } := by
  rw [writeDocument, on_bind_of_ok (on_get run), h]
  exact on_bind_of_ok (on_set _ run)

/-- What the command may show, log and bring out, as long as things are
shown as they are to be. -/
structure Admits (keeps : Stream → Terminal → Prop) (allows : Emission → Prop) : Prop where
  /-- Whatever its terminal makes of the calls. -/
  shown : ∀ {stream terminal}, keeps stream terminal → ∀ (call : Terminal.Call) {displays},
    isMade terminal.verbose call = true → call.shownOn terminal = .ok displays →
    ∀ display ∈ displays, allows (.shown stream display)
  counted : ∀ stream terminal, keeps stream terminal → terminal.quiet = false →
    ∀ total description, allows (.progress stream total description)
  logged : ∀ layout entry, allows (.logged layout entry)
  document : ∀ content, allows (.document content)

section

variable {keeps : Stream → Terminal → Prop} {allows : Emission → Prop} {α : Type}
  (hadmits : Admits keeps allows)

include hadmits

/-- What is shown for a call that is made whatever the terminal is like is
allowed where calls are. -/
theorem emits_call (call : Terminal.Call) {shown : Terminal → List Display}
    (hmade : ∀ verbose, isMade verbose call = true)
    (hshown : ∀ t, call.shownOn t = .ok (shown t)) : (tell shown).Emits keeps allows :=
  emits_tell fun _ terminal hkept => hadmits.shown hkept call (hmade _) (hshown terminal)

/-- A status line that nobody forces. -/
theorem emits_line (mark : Terminal.Mark) (message : Text) :
    (tell fun t => Terminal.Call.usualLine t message mark).Emits keeps allows :=
  emits_call hadmits (.line mark message none) (fun _ => rfl) fun t =>
    Terminal.Call.shownOn_line t mark message

/-- An error is shown as an error, and then the run is stopped. -/
theorem emits_failure (message : Text) : (fail message : Procedure α).Emits keeps allows :=
  (emits_line hadmits .error message).bind fun _ => emits_throw _

/-- Log lines are allowed whatever they say. -/
theorem emits_entries (entries : List Log.Entry) : (log entries).Emits keeps allows :=
  emits_log fun layout entry _ => hadmits.logged layout entry

/-- The settings are shown only in a verbose run, and only if they have a
text. Then it is the call for settings that is made. -/
theorem emits_showSettings (settings : Settings) : (showSettings settings).Emits keeps allows := by
  intro run hrun
  simp only [showSettings, on_bind, on_get]
  split
  · next hverbose =>
    split
    · next shown hshown =>
      have hcall : (Terminal.Call.settings settings.shownEntries).shownOn run.terminal
          = .ok shown := by
        rw [Terminal.Call.shownOn, hshown]
        rfl
      have hallowed := hadmits.shown hrun (.settings settings.shownEntries) hverbose hcall
      rw [Procedure.tell, on_bind_of_ok (on_get run)]
      exact emits_putAll hrun (List.forall_mem_map.mpr hallowed)
    · exact emits_throw _ run hrun
  · exact emits_pure _ run hrun

/-- Looking for files shows nothing and logs every path, also where it ends
at a path that cannot be searched. -/
theorem emits_discover (lines : List Text) (files paths : List Path) :
    (discover lines files paths).Emits keeps allows := by
  induction paths generalizing files with
  | nil => exact emits_pure _
  | cons path paths ih =>
      refine emits_get.bind fun run => (emits_entries hadmits _).bind fun _ => ?_
      split
      · exact ih _
      · exact emits_throw _

/-- Of a backend it is said that it is ready, or which one it is that there
is not, or that it has no key. -/
theorem emits_createBackend (settings : Settings) :
    (createBackend settings).Emits keeps allows := by
  refine Emits.bind (emits_get.bind fun run => ?_) fun config =>
    (emits_entries hadmits _).bind fun _ => ?_
  · split
    · exact emits_pure _
    · exact emits_throw _
  split
  · -- There is no such backend.
    exact (emits_entries hadmits _).bind fun _ => emits_failure hadmits _
  · refine Emits.bind (emits_of_silent (fun _ h => h) fun _ => rfl) fun _ => ?_
    split
    · -- It has no key.
      exact (emits_entries hadmits _).bind fun _ => emits_failure hadmits _
    · exact (emits_line hadmits .success _).bind fun _ => emits_pure _

/-- While files are documented, their number is counted up, unless the
terminal is quiet. -/
theorem emits_documentFiles (around : Surroundings) (settings : Settings)
    (backend : Backend) (files : List Path) :
    (documentFiles around settings backend files).Emits keeps allows := by
  refine (emits_entries hadmits _).bind fun _ => emits_get.bind fun run => ?_
  -- What was asked is kept in the run, and nothing of it is shown.
  refine Emits.bind (emits_of_silent (fun _ h => h) fun _ => rfl) fun _ =>
    (emits_entries hadmits _).bind fun _ => ?_
  refine (emits_countTo fun stream terminal hkept hquiet =>
    hadmits.counted stream terminal hkept hquiet _ _).bind fun _ => ?_
  split
  · exact emits_pure _
  · exact emits_throw _
  · exact emits_throw _

/-- Of the results a verbose run is told everything, and every run is told
the failures. -/
theorem emits_showResults (report : Batch.Report) : (showResults report).Emits keeps allows := by
  refine Emits.bind (emits_tell fun stream terminal hkept => ?_) fun _ =>
    emits_tell fun stream terminal hkept => ?_
  · -- One line for each file that failed.
    intro display hdisplay
    obtain ⟨failure, -, hshown⟩ := List.mem_flatMap.mp hdisplay
    exact hadmits.shown hkept (.line .error (failureLine failure) none) rfl
      (Terminal.Call.shownOn_line terminal .error _) _ hshown
  · -- What became of each file, for whoever wants to know more.
    split
    · next hverbose =>
      intro display hdisplay
      rcases List.mem_append.mp hdisplay with hshown | hshown
      · obtain ⟨doc, -, hshown⟩ := List.mem_flatMap.mp hshown
        exact hadmits.shown hkept (.fileSummary doc) hverbose rfl _ hshown
      · exact hadmits.shown hkept (.failures (report.failures.map shownFailure)) hverbose rfl _
          hshown
    · exact List.forall_mem_nil _

/-- Once a document is written the run says where it is, and nothing else.
If it could not be written it says nothing here. -/
theorem emits_afterPublishing (entries : List Log.Entry) (written : Except FileFault Path) :
    (afterPublishing entries written).Emits keeps allows := by
  refine (emits_entries hadmits _).bind fun _ => ?_
  cases written with
  | error fault => exact emits_throw _
  | ok path => exact (emits_line hadmits .success _).bind fun _ => emits_pure _

/-- Writing a document brings out no more than that: what is in the files is
not shown. -/
theorem emits_writeDocument (settings : Settings) (content : Text) :
    (writeDocument settings content).Emits keeps allows := by
  intro run hrun
  rw [writeDocument_on rfl]
  -- The files have changed, but not how things are shown.
  exact emits_afterPublishing hadmits _ _ _ hrun

/-- A document is brought out or written, unless there is none, which is
said. -/
theorem emits_publish (around : Surroundings) (settings : Settings) (toOutput : Bool)
    (docs : List FileDoc) : (publish around settings toOutput docs).Emits keeps allows := by
  rw [publish]
  split
  · exact (emits_line hadmits .warning _).bind fun _ => emits_pure _
  · refine Emits.bind ?_ fun content => ?_
    · rw [documentOf]
      split
      · exact emits_pure _
      · exact emits_throw _
    · split
      · exact (emits_bringOut (hadmits.document _)).bind fun _ => emits_pure _
      · exact (emits_writeDocument hadmits _ _).bind fun _ => emits_pure _

/-- What is shown from the list of files to the statistics. The steps come
one behind the other, and each of them has its lemma. -/
theorem emits_process (around : Surroundings) (settings : Settings) (toOutput : Bool)
    (files : List Path) : (process around settings toOutput files).Emits keeps allows := by
  refine (emits_call hadmits (.fileList files) (fun _ => rfl) fun _ => rfl).bind fun _ =>
    (emits_createBackend hadmits _).bind fun _ =>
    (emits_documentFiles hadmits _ _ _ _).bind fun report =>
    (emits_showResults hadmits _).bind fun _ => (emits_publish hadmits _ _ _ _).bind fun path =>
    (emits_entries hadmits _).bind fun _ => ?_
  refine (emits_call hadmits (.statistics report.docs report.failures.length around.seconds
    (path.map Path.toText)) (fun _ => rfl) fun _ => rfl).bind fun _ => ?_
  split
  · exact emits_throw _
  · exact emits_pure _

/-- The command behind its settings. -/
def afterSettings (around : Surroundings) (choices : Choices) (paths : List Path)
    (settings : Settings) : Procedure Unit := do
  showSettings settings
  tell (·.info ("Scanning " ++ Text.ofNat paths.length ++ " path(s)..."))
  let files ← discover settings.excludePatterns [] paths
  if files.isEmpty then tell (·.warning "No supported source files found")
  else process around settings choices.toOutput files

/-- What is shown behind the settings, which is all of the command but for
its banner. -/
theorem emits_afterSettings (around : Surroundings) (choices : Choices) (paths : List Path)
    (settings : Settings) : (afterSettings around choices paths settings).Emits keeps allows := by
  refine (emits_showSettings hadmits settings).bind fun _ =>
    (emits_line hadmits .info _).bind fun _ =>
    (emits_discover hadmits _ _ _).bind fun files => ?_
  split
  · exact emits_line hadmits .warning _
  · exact emits_process hadmits _ _ _ _

end

/-! ### The error stream -/

/-- Where displays go to the error stream, so does all that the step
brings out, but for documents. -/
def KeepsToErrors {α : Type} (p : Procedure α) : Prop :=
  p.Emits (fun stream _ => stream = .errors)
    fun e => e.stream = .errors ∨ ∃ content, e = .document content

/-- The command shows nothing but on the stream of its displays. For a run
that prints its document this is the error stream, so all that is left for
the other stream are documents. -/
theorem admits_errors : Admits (fun stream _ => stream = .errors)
    fun e => e.stream = .errors ∨ ∃ content, e = .document content where
  shown hstream _ _ _ _ _ _ := .inl hstream
  counted _ _ hstream _ _ _ := .inl hstream
  logged _ _ := .inl rfl
  document content := .inr ⟨content, rfl⟩

/-- Whatever is shown goes to the stream of displays. -/
theorem keepsToErrors_tell (shown : Terminal → List Display) : KeepsToErrors (tell shown) :=
  emits_tell fun _ _ hstream _ _ => .inl hstream

/-- Settings decide how things are shown, but not where. So what went to the
errors before goes there still. -/
theorem keepsToErrors_loadSettings (front : Choices) (overrides : Settings.Values) :
    KeepsToErrors (loadSettings front overrides) := by
  have hlogs := fun entries => emits_entries admits_errors entries
  refine (hlogs _).bind fun _ => emits_get.bind fun run => ?_
  split
  · exact Emits.bind (emits_of_silent (fun _ h => h) fun _ => rfl) fun _ => emits_pure _
  · exact emits_throw _
  · split
    · exact (keepsToErrors_tell _).bind fun _ => (hlogs _).bind fun _ => emits_throw _
    · exact emits_throw _

/-! ### Displays that do not get out -/

/-- How a run shows things: on a terminal that is known, and on the error
stream if the standard output is there for the document. -/
def Faces (toOutput : Bool) (terminal : Terminal) (stream : Stream) (shownOn : Terminal) : Prop :=
  shownOn = terminal ∧ (toOutput = true → stream = .errors)

/-- Displays of which one is refused. The document does not go to the
standard output then, as they would not do so either. -/
def Unshown (outlet : Outlet) (toOutput : Bool) (displays : List Display) (message : Text) :
    Prop :=
  toOutput = false ∧ outlet.Refuses displays message

/-- Nothing that the command brings out changes how things are shown. No
condition on emissions is made here; what is wanted is that stream and
terminal stay. -/
theorem admits_all (keeps : Stream → Terminal → Prop) : Admits keeps fun _ => True where
  shown _ _ _ _ _ _ _ := trivial
  counted _ _ _ _ _ _ := trivial
  logged _ _ := trivial
  document _ := trivial

variable {toOutput : Bool} {terminal : Terminal} {run run' : Run}

/-- A step that is known to keep the stream and the terminal keeps them in
the run that it ends with. -/
theorem Faces.of_emits {α : Type} {p : Procedure α} {result : Except Stop α}
    (hemits : p.Emits (Faces toOutput terminal) fun _ => True)
    (hfaces : Faces toOutput terminal run.stream run.terminal) (h : p.on run = (result, run')) :
    Faces toOutput terminal run'.stream run'.terminal := by
  have hkept := (hemits run hfaces).1
  rwa [h] at hkept

/-- Where displays go to the standard output, the document does not. So a
refusal of a display means that a file was to be written. -/
theorem Faces.toOutput_eq_false {stream : Stream} {shownOn : Terminal}
    (hfaces : Faces toOutput terminal stream shownOn) (hstream : stream = .output) :
    toOutput = false := by
  cases toOutput with
  | false => rfl
  | true => exact nomatch hstream.symm.trans (hfaces.2 rfl)

/-- Log lines change nothing about it. -/
theorem Faces.log (hfaces : Faces toOutput terminal run.stream run.terminal)
    (entries : List Log.Entry) :
    Faces toOutput terminal (run.log entries).stream (run.log entries).terminal :=
  hfaces

/-- Where displays go and what the terminal makes of them being known,
something is shown or the standard output has refused it. -/
theorem tell_faces {shown : Terminal → List Display} {result : Except Stop Unit}
    (hfaces : Faces toOutput terminal run.stream run.terminal)
    (h : (tell shown).on run = (result, run')) :
    Keeps run run' ∧ Faces toOutput terminal run'.stream run'.terminal
      ∧ (result = .ok () ∨ ∃ message, result = .error (.unexpected message)
        ∧ Unshown run.outlet toOutput (shown terminal) message) := by
  obtain ⟨hkept, hcases⟩ := tell_cases h
  refine ⟨hkept, hfaces.of_emits (emits_tell fun _ _ _ _ _ => trivial) h, ?_⟩
  rcases hcases with ⟨rfl, -⟩ | ⟨message, rfl, hstream, hrefused⟩
  · exact .inl rfl
  · exact .inr ⟨message, rfl, hfaces.toOutput_eq_false hstream, hfaces.1 ▸ hrefused⟩

end Generate

end DocScribe.CommandLine
