import DocScribe.CommandLine.Basic
import DocScribe.Proofs.CommandLine.Emitting
import DocScribe.Proofs.CommandLine.Outcome
import DocScribe.Proofs.CommandLine.Reporting
import DocScribe.Proofs.Terminal.Quietness

/-!
# `DocScribe.Proofs.CommandLine.Quiet`: what quiet runs show

A run is quiet if a flag says so, or its settings. Settings are loaded once
the run has begun; from then on its terminal is quiet, whoever said so, and
nothing changes that any more. So all that is shown afterwards tells of an
error, on every way through the command (`admits_quiet`); a run whose settings
cannot be loaded says so and ends.

But the banner is shown before the settings are loaded, and only the flag
keeps it back. With settings alone, a quiet run begins with its banner
(`console_of_quiet`, `hushedRun_begins_with_banner`).
-/

set_option autoImplicit false

namespace DocScribe.CommandLine

/-! ### The console -/

/-- Whether an emission is there to be watched: a display or a bar. -/
def Emission.isShown : Emission → Bool
  | .shown _ _ => true
  | .progress _ _ _ => true
  | _ => false

/-- What a run has shown. -/
def Run.console (run : Run) : List Emission :=
  run.emissions.filter Emission.isShown

/-- An emission that tells of an error: a line, or the files that failed if
details are wanted. -/
inductive Emission.TellsError (verbose : Prop) : Emission → Prop
  | line (stream : Stream) (message : Text) :
      TellsError verbose (.shown stream (Terminal.status Terminal.Mark.error.marker message))
  | failures (stream : Stream) (failed : List Terminal.Failure) : verbose →
      TellsError verbose (.shown stream
        (.table "Failed Files" ["File", "Stage", "Reason"] (failed.map Terminal.Failure.row)))

/-- From one run to another, nothing has been shown but errors. -/
def ShowsErrors (verbose : Prop) (run run' : Run) : Prop :=
  ∃ more, run'.console = run.console ++ more ∧ ∀ e ∈ more, e.TellsError verbose

/-- What a run may show as it is silent or verbose, it may show if it is
verbose in more cases. -/
theorem Emission.TellsError.mono {verbose verbose' : Prop} {e : Emission}
    (h : e.TellsError verbose) (hverbose : verbose → verbose') : e.TellsError verbose' := by
  cases h with
  | line stream message => exact .line stream message
  | failures stream failed hwanted => exact .failures stream failed (hverbose hwanted)

section

variable {verbose : Prop} {run run' run'' : Run}

/-- Steps that show nothing show errors only. -/
theorem ShowsErrors.of_console_eq (h : run'.console = run.console) :
    ShowsErrors verbose run run' :=
  ⟨[], h.trans (List.append_nil _).symm, List.forall_mem_nil _⟩

/-- The verbose case can be widened. -/
theorem ShowsErrors.mono {verbose' : Prop} (h : ShowsErrors verbose run run')
    (hverbose : verbose → verbose') : ShowsErrors verbose' run run' := by
  obtain ⟨more, hmore, herrors⟩ := h
  exact ⟨more, hmore, fun e he => (herrors e he).mono hverbose⟩

/-- What is shown adds up over the steps of a run. So it is enough to look
at each step for itself. -/
theorem ShowsErrors.trans (h : ShowsErrors verbose run run') (h' : ShowsErrors verbose run' run'') :
    ShowsErrors verbose run run'' := by
  obtain ⟨more, hmore, herrors⟩ := h
  obtain ⟨more', hmore', herrors'⟩ := h'
  refine ⟨more ++ more', ?_, List.forall_mem_append.mpr ⟨herrors, herrors'⟩⟩
  rw [hmore', hmore, List.append_assoc]

/-- The console has what was emitted to be shown, in order, and no log lines
or documents. -/
theorem Run.console_emit (run : Run) (emissions : List Emission) :
    (run.emit emissions).console = run.console ++ emissions.filter Emission.isShown :=
  List.filter_append _ _

/-- Log lines are not there to be watched, so the console is as before: they
are written past the terminal. -/
theorem Run.console_log (run : Run) (entries : List Log.Entry) :
    (run.log entries).console = run.console := by
  have hnone : ((entries.filter (·.passes run.threshold)).map
      (Emission.logged run.layout)).filter Emission.isShown = [] := by
    refine List.filter_eq_nil_iff.mpr ?_
    intro e he
    obtain ⟨entry, -, rfl⟩ := List.mem_map.mp he
    simp [Emission.isShown]
  rw [log, console_emit, hnone, List.append_nil]

/-- Displays are there to be watched, on the stream that is theirs. They
come behind what the console has received before. -/
theorem Run.console_display (run : Run) (displays : List Display) :
    (run.display displays).console = run.console ++ displays.map (.shown run.stream) := by
  have hall : (displays.map (Emission.shown run.stream)).filter Emission.isShown
      = displays.map (.shown run.stream) := by
    refine List.filter_eq_self.mpr ?_
    intro e he
    obtain ⟨display, -, rfl⟩ := List.mem_map.mp he
    rfl
  rw [display, console_emit, hall]

/-- Emissions of which those that can be watched tell of errors show errors
only. -/
theorem ShowsErrors.of_emissions {more : List Emission}
    (hmore : run'.emissions = run.emissions ++ more)
    (h : ∀ e ∈ more, e.isShown = true → e.TellsError verbose) : ShowsErrors verbose run run' := by
  refine ⟨more.filter Emission.isShown, ?_, fun e he => ?_⟩
  · rw [Run.console, hmore, List.filter_append]
    rfl
  · obtain ⟨hmem, hshown⟩ := List.mem_filter.mp he
    exact h e hmem hshown

/-- A step that shows nothing but errors, seen from the console. What it
brings out elsewhere, as log lines or a document, is not asked about. -/
theorem ShowsErrors.of_emits {α : Type} {p : Procedure α} {keeps : Stream → Terminal → Prop}
    (hemits : p.Emits keeps fun e => e.isShown = true → e.TellsError verbose)
    (hrun : keeps run.stream run.terminal) : ShowsErrors verbose run (p.on run).2 := by
  obtain ⟨-, more, hmore, hallowed⟩ := hemits run hrun
  exact .of_emissions hmore hallowed

/-- An error line tells of an error, wherever it goes and whether it gets out
or not. -/
theorem ShowsErrors.error (run : Run) (stream : Stream) (terminal : Terminal) (message : Text) :
    ShowsErrors verbose run
      ((Procedure.putAll ((terminal.error message).map (.shown stream))).on run).2 := by
  have hallowed : ∀ e ∈ (terminal.error message).map (Emission.shown stream),
      e.isShown = true → e.TellsError verbose :=
    List.forall_mem_singleton.mpr fun _ => .line stream message
  let keeps : Stream → Terminal → Prop := fun _ _ => True
  have hrun : keeps run.stream run.terminal := trivial
  obtain ⟨-, more, hmore, herrors⟩ := Procedure.emits_putAll hrun hallowed
  exact .of_emissions hmore herrors

end

namespace Generate

open Procedure

variable {around : Surroundings} {front choices : Choices} {settings : Settings}
  {paths : List Path} {run run' : Run} {verbose : Bool}

/-! ### Once the terminal is quiet -/

/-- What a quiet terminal shows for a call tells an error, or it is a
message for verbose runs. One case for each call of the terminal. -/
theorem tellsError_of_shownOn {t : Terminal} (hquiet : t.quiet = true) {call : Terminal.Call}
    {displays : List Display} (hmade : isMade t.verbose call = true)
    (hshown : call.shownOn t = .ok displays) (stream : Stream) :
    ∀ display ∈ displays, (Emission.shown stream display).TellsError (t.verbose = true) := by
  cases hheard : call.isHeard t.verbose with
  | false =>
      have hnothing := Terminal.Call.shownOn_of_unheard hquiet hheard
      obtain rfl := Except.ok.inj (hshown.symm.trans hnothing)
      exact List.forall_mem_nil _
  | true =>
      cases call with
      | line mark message force =>
          -- Nobody forces a line here, so the line is heard for its kind.
          obtain rfl : force = none := Option.isNone_iff_eq_none.mp hmade
          have herror : mark = .error := by
            cases mark <;> simp_all [Terminal.Call.isHeard, Terminal.Call.tellsErrors,
              Terminal.Call.getsThrough]
          rw [Terminal.Call.shownOn_line, herror] at hshown
          obtain rfl := Except.ok.inj hshown
          exact List.forall_mem_singleton.mpr (.line stream message)
      | failures failed =>
          obtain rfl := Except.ok.inj hshown
          cases failed with
          | nil => exact List.forall_mem_nil _
          | cons failure failed =>
              exact List.forall_mem_singleton.mpr (.failures stream (failure :: failed) hmade)
      | debug message => cases hmade
      | banner => cases hheard
      | fileSummary doc => cases hheard
      | statistics docs failed seconds output => cases hheard
      | settings entries => cases hheard
      | fileList paths => cases hheard

/-- The command keeps a quiet terminal quiet, and shows nothing but errors
on it. -/
theorem admits_quiet (verbose : Bool) : Admits (fun _ terminal => terminal = ⟨verbose, true⟩)
    fun e => e.isShown = true → e.TellsError (verbose = true) where
  shown := by
    rintro stream _ rfl call displays hmade hshown display hdisplay -
    exact tellsError_of_shownOn rfl hmade hshown stream display hdisplay
  counted := by
    rintro stream _ rfl hloud
    cases hloud
  logged _ _ h := by cases h
  document _ h := by cases h

/-! ### Up to the settings -/

/-- Settings that cannot be loaded end the run with an error or with nothing
shown. -/
theorem showsErrors_of_fault {verbose : Prop} {overrides : Settings.Values}
    {fault : Settings.Fault}
    (h : Settings.load run.workspace front.configFile overrides = .error fault) :
    ∃ stop run', (loadSettings front overrides).on run = (.error stop, run')
      ∧ ShowsErrors verbose run run' := by
  have hsame : ShowsErrors verbose run (run.log [Log.debug "loading_configuration"]) :=
    .of_console_eq (run.console_log _)
  rcases loadSettings_on_of_fault h with ⟨hinvalid, hon⟩ | ⟨status, -, hon⟩ | ⟨-, -, hon⟩
  · -- What is wrong with the settings is said, and logged.
    have hemits : (reportInvalid fault).Emits (fun _ _ => True)
        fun e => e.isShown = true → e.TellsError verbose :=
      (emits_tell fun stream _ _ => List.forall_mem_singleton.mpr fun _ => .line stream _).bind
        fun _ => (emits_log fun _ _ _ hshown => nomatch hshown).bind fun _ => emits_throw _
    have hsaid := hsame.trans (.of_emits hemits trivial)
    obtain ⟨result, run', hrun, -, hreported⟩ := loadSettings_of_invalid h hinvalid
    rw [← hon, hrun] at hsaid
    rcases hreported with ⟨rfl, -⟩ | ⟨refusal, rfl, -⟩
    · exact ⟨_, run', hrun, hsaid⟩
    · exact ⟨_, run', hrun, hsaid⟩
  · exact ⟨_, _, hon, hsame⟩
  · exact ⟨_, _, hon, hsame⟩

/-- With these choices a run is quiet: a flag says so, or its settings. -/
def IsQuiet (ws : Workspace) (front choices : Choices) : Prop :=
  front.quiet = true ∨ ∃ settings,
    Settings.load ws front.configFile choices.overrides = .ok settings ∧ settings.quiet = true

/-- With these choices a run is verbose. -/
def IsVerbose (ws : Workspace) (front choices : Choices) : Prop :=
  front.verbose = true ∨ ∃ settings,
    Settings.load ws front.configFile choices.overrides = .ok settings ∧ settings.verbose = true

/-- Behind its banner, a quiet run shows nothing but errors. Until the
settings are loaded the terminal is as the words of the command line have
it, and from then on it is quiet by the settings. -/
theorem showsErrors_generate (around : Surroundings) (paths : List Path)
    (hterminal : run.terminal = ⟨front.verbose, front.quiet⟩)
    (hquiet : IsQuiet run.workspace front choices) :
    ShowsErrors (IsVerbose run.workspace front choices) (begun choices run)
      ((generate around front choices paths).on run).2 := by
  have hworkspace := (keeps_begun choices run).workspace
  have hbegun : (begun choices run).terminal = run.terminal := by
    rw [begun]
    split <;> rfl
  rw [generate_on]
  show ShowsErrors _ _ (((loadSettings front choices.overrides) >>= fun settings =>
    afterSettings around choices paths settings).on (begun choices run)).2
  cases hload : Settings.load run.workspace front.configFile choices.overrides with
  | error fault =>
      obtain ⟨stop, run', hrun, hshown⟩ := showsErrors_of_fault (hworkspace ▸ hload)
      rw [on_bind_of_error hrun]
      exact hshown
  | ok settings =>
      rw [on_bind_of_ok (loadSettings_on_of_load (hworkspace ▸ hload))]
      -- From here on the terminal is quiet.
      have hsettled : (((begun choices run).log [Log.debug "loading_configuration"]).settle front
          settings).terminal = ⟨front.verbose || settings.verbose, true⟩ := by
        have heither : (front.quiet || settings.quiet) = true := by
          rcases hquiet with hflag | ⟨settings', hload', hquiet⟩
          · rw [hflag, Bool.true_or]
          · obtain rfl := Except.ok.inj (hload.symm.trans hload')
            rw [hquiet, Bool.or_true]
        show Terminal.mk ((begun choices run).terminal.verbose || settings.verbose)
          ((begun choices run).terminal.quiet || settings.quiet) = _
        rw [hbegun, hterminal, heither]
      have hsame : ShowsErrors (IsVerbose run.workspace front choices) (begun choices run)
          (((begun choices run).log [Log.debug "loading_configuration"]).settle front settings) :=
        .of_console_eq (Run.console_log _ _)
      have hshown := ShowsErrors.of_emits
        (emits_afterSettings (admits_quiet _) around choices paths settings) hsettled
      refine hsame.trans (hshown.mono fun hverbose => ?_)
      rcases (Bool.or_eq_true _ _).mp hverbose with hflag | hsetting
      · exact .inl hflag
      · exact .inr ⟨settings, hload, hsetting⟩

/-- What a run shows before it knows its settings: the banner, unless a flag
keeps it back. -/
def opening (front choices : Choices) : List Emission :=
  (Terminal.banner ⟨front.verbose, front.quiet⟩).map
    (.shown (if choices.toOutput then .errors else .output))

/-- A run shows its banner first, before it has looked at any settings.
Whether it does depends on the flag alone, which is all that is known by
then. -/
theorem console_begun (hterminal : run.terminal = ⟨front.verbose, front.quiet⟩)
    (hstream : run.stream = .output) :
    (begun choices run).console = run.console ++ opening front choices := by
  cases houtput : choices.toOutput with
  | true =>
      simp only [begun, opening, houtput, if_true, Run.console_display, hterminal]
      rfl
  | false =>
      simp only [begun, opening, houtput, Bool.false_eq_true, if_false, Run.console_display,
        hterminal, hstream]

/-- No error is told by the opening, which is empty only if a flag says that
the run is quiet. -/
theorem opening_tellsError_iff {verbose : Prop} :
    (∀ e ∈ opening front choices, e.TellsError verbose) ↔ front.quiet = true := by
  cases hquiet : front.quiet with
  | true => simp [opening, Terminal.banner, Terminal.unlessQuiet, hquiet]
  | false =>
      simp only [opening, Terminal.banner, Terminal.unlessQuiet, hquiet, Bool.false_eq_true,
        if_false, List.map_cons, List.map_nil, List.forall_mem_singleton, iff_false]
      intro herror
      cases herror

end Generate

/-! ### The whole run -/

/-- The words ask for source files to be documented, with choices in front of
the command and behind it. -/
def Asks (ws : Workspace) (words : List Text) (front choices : Choices) (paths : List Path) :
    Prop :=
  ∃ word rest, readFront ws words = .ok (front, word :: rest)
    ∧ Command.ofWord? word = some .generate
    ∧ Command.generate.read ws rest = .ok (.generate choices paths)

variable {ws : Workspace} {words : List Text} {front choices : Choices} {paths : List Path}

/-- The run that begins in some surroundings. -/
def Run.startIn (around : Surroundings) (ws : Workspace) : Run :=
  { Run.start ws with outlet := around.outlet }

/-- The run that a command finds, with the choices in front of it. -/
def Run.configured (around : Surroundings) (ws : Workspace) (front : Choices) : Run :=
  ((Run.startIn around ws).configure front).log [Log.debug "logging_configured"]

/-- The words lead to the command: what a run does with words that ask for
documentation is what the command does with their choices. -/
theorem perform_of_asks (around : Surroundings) (h : Asks ws words front choices paths) :
    (perform around words).on (Run.startIn around ws)
      = (Generate.generate around front choices paths).on (Run.configured around ws front) := by
  obtain ⟨word, rest, hfront, hword, hread⟩ := h
  cases words with
  | nil => cases hfront
  | cons first words =>
      have hstart : (Run.startIn around ws).workspace = ws := rfl
      have hconfigured : (((Run.startIn around ws).configure front).log
          [Log.debug "logging_configured"]).workspace = ws := rfl
      simp only [perform, Procedure.on_bind, Procedure.on_get, Procedure.on_ofExcept, hstart,
        hfront, hword, dispatch, Procedure.on_modify, Procedure.on_log]
      rw [hconfigured, hread]
      rfl

/-- How a run that has stopped is announced: what was not foreseen is told
as an error, and no other stop shows anything on the console. -/
theorem showsErrors_announce {verbose : Prop} (words : List Text) (stop : Stop) (run : Run) :
    ShowsErrors verbose run (stop.announce words run) := by
  cases stop with
  | told content => exact .of_console_eq ((run.console_emit _).trans (List.append_nil _))
  | unexpected message =>
      have hsaid : ShowsErrors verbose run _ :=
        .error run .output ⟨false, false⟩ ("Unexpected error: " ++ message)
      rw [Stop.announce]
      split
      · next said hput =>
        rw [hput] at hsaid
        split
        · exact hsaid.trans (.of_console_eq (Run.console_log _ _))
        · exact hsaid
      · next refusal said hput =>
        rw [hput] at hsaid
        exact hsaid
  | usage e => exact .of_console_eq rfl
  | nothingAsked => exact .of_console_eq rfl
  | exit status => exact .of_console_eq rfl
  | interrupted => exact .of_console_eq rfl

/-- So does the end of a run, where what was not foreseen is announced. An
announcement is an error, and it is made whether the terminal is quiet or
not. -/
theorem showsErrors_execute {verbose : Prop} (around : Surroundings) (ws : Workspace)
    (words : List Text) :
    ShowsErrors verbose ((perform around words).on (Run.startIn around ws)).2
      (execute around ws words).run := by
  rw [execute, ← Run.startIn]
  rcases (perform around words).on (Run.startIn around ws) with ⟨stop | _, run⟩
  · exact showsErrors_announce words stop run
  · exact .of_console_eq rfl

/-- **What quiet runs show.** Source files are to be documented, and a flag or
the settings say that the run is quiet; however it ends, it shows its opening,
and after that nothing but errors and, to whoever wants details, the files that
failed. The opening is empty exactly if it is a flag that says so: with
settings alone, the banner has been shown before they were loaded. -/
theorem console_of_quiet (around : Surroundings) (hasks : Asks ws words front choices paths)
    (hquiet : Generate.IsQuiet ws front choices) :
    (∃ shown, (execute around ws words).run.console = Generate.opening front choices ++ shown
        ∧ ∀ e ∈ shown, e.TellsError (Generate.IsVerbose ws front choices))
      ∧ ((∀ e ∈ (execute around ws words).run.console,
          e.TellsError (Generate.IsVerbose ws front choices)) ↔ front.quiet = true) := by
  have hworkspace : (Run.configured around ws front).workspace = ws := rfl
  have hterminal : (Run.configured around ws front).terminal = ⟨front.verbose, front.quiet⟩ := rfl
  have hgenerated := Generate.showsErrors_generate around paths hterminal (hworkspace.symm ▸ hquiet)
  rw [hworkspace] at hgenerated
  have hconsole : (Generate.begun choices (Run.configured around ws front)).console
      = Generate.opening front choices := by
    rw [Generate.console_begun hterminal rfl, Run.configured, Run.console_log]
    rfl
  have hended : ShowsErrors (Generate.IsVerbose ws front choices)
      (Generate.begun choices (Run.configured around ws front)) (execute around ws words).run := by
    refine ShowsErrors.trans hgenerated ?_
    rw [← perform_of_asks around hasks]
    exact showsErrors_execute around ws words
  obtain ⟨shown, hshown, herrors⟩ := hended
  rw [hconsole] at hshown
  refine ⟨⟨shown, hshown, herrors⟩, ?_⟩
  rw [hshown, List.forall_mem_append, Generate.opening_tellsError_iff]
  exact and_iff_left herrors

/-- A folder with one source file, a key, and an environment that says that runs
are to be quiet. -/
def hushedFile : Workspace :=
  { Generate.oneFile with
    environment := [("APIDOCGEN_QUIET", "true"), ("OPENAI_API_KEY", "k")] }

/-- A service that is out of reach. -/
def outOfReach : Surroundings :=
  { Generate.reddening with transport := fun _ =>
      { chat := fun _ => .failed ⟨.accountConnection, "down"⟩
        generate := fun _ => .interrupted
        list := .interrupted } }

/-- The words that ask for the file. -/
def fileWords : List Text := ["generate", "a.py"]

/-- The words of the command line ask for the one file, and set nothing
else. -/
theorem asks_fileWords : Asks hushedFile fileWords .none .none [Path.ofText "a.py"] :=
  ⟨"generate", ["a.py"], rfl, rfl, rfl⟩

/-- The environment asks for a quiet run, and no flag does. -/
theorem isQuiet_hushedFile : Generate.IsQuiet hushedFile .none .none := by
  have hload : Settings.load hushedFile Choices.none.configFile Choices.none.overrides
      = .ok { Generate.usualSettings with quiet := true } := by
    rfl
  exact .inr ⟨_, hload, rfl⟩

/-- The run shows errors behind its opening, which is not empty. It has been
asked to be quiet by the environment, which is read too late for the
banner. -/
theorem hushedRun_shows_more_than_errors :
    Asks hushedFile fileWords .none .none [Path.ofText "a.py"]
      ∧ Generate.IsQuiet hushedFile .none .none
      ∧ (∃ shown, (execute outOfReach hushedFile fileWords).run.console
          = Generate.opening .none .none ++ shown
        ∧ ∀ e ∈ shown, e.TellsError (Generate.IsVerbose hushedFile .none .none))
      ∧ ¬ ∀ e ∈ (execute outOfReach hushedFile fileWords).run.console,
          e.TellsError (Generate.IsVerbose hushedFile .none .none) := by
  obtain ⟨hshown, hiff⟩ := console_of_quiet outOfReach asks_fileWords isQuiet_hushedFile
  refine ⟨asks_fileWords, isQuiet_hushedFile, hshown, ?_⟩
  rw [hiff]
  decide

/-- It shows its banner, and the error that the file comes to. The banner is
no error, so the run does not keep to errors. -/
theorem hushedRun_begins_with_banner :
    Generate.IsQuiet hushedFile .none .none
      ∧ (execute outOfReach hushedFile fileWords).run.console
        = [.shown .output (.panel none none
            (.text "apidocgen\nAI-Powered API Documentation Generator")),
          .shown .output (.line "✗ /a.py: OpenAI API error: down")]
      ∧ ¬ ∀ e ∈ (execute outOfReach hushedFile fileWords).run.console, e.TellsError True := by
  have hconsole : (execute outOfReach hushedFile fileWords).run.console
      = [.shown .output (.panel none none
          (.text "apidocgen\nAI-Powered API Documentation Generator")),
        .shown .output (.line "✗ /a.py: OpenAI API error: down")] := by
    decide +kernel
  refine ⟨isQuiet_hushedFile, hconsole, ?_⟩
  rw [hconsole]
  intro herrors
  cases herrors _ List.mem_cons_self

end DocScribe.CommandLine
