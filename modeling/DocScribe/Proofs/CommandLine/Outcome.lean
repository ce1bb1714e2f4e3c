import DocScribe.Proofs.CommandLine.Delivering
import DocScribe.Proofs.CommandLine.Discovering
import DocScribe.Proofs.Generation.Prompts

/-!
# `DocScribe.Proofs.CommandLine.Outcome`: how documenting source files ends

`generate_ends` says of every run of the command, with settings that could
be loaded, how it ends (`Ends`). Either something stops it that was not
foreseen; then nothing was written or brought out. Or it finds no files,
and is over without having asked or written anything. Or there is no
backend to ask, which is an error that is shown. Or every file that was
found comes to a result (`Generated`): each is asked about once at most, in
whatever order the replies come in, and the document is that of the files
that succeeded, in the order of their discovery. It is written or brought
out (`Delivered`), unless none succeeded, and whether any failed is the
exit status.

What stops a run unforeseen has a name on every way. Before anybody is
asked, it is the table of settings, the search, or something about the
files or their backend that cannot be shown (`StopsEarly`, `Unprepared`).
Later it is a breakdown of the batch, or the standard output: this may
refuse a display, so that the run stops before its document is made or
after it was written, and it may refuse the document itself (`Lost`).

Each step of the command has a lemma of its own, which says what the step
comes to and what it leaves alone. The theorem puts them together.
-/

set_option autoImplicit false

namespace DocScribe.CommandLine.Generate

open Procedure

variable {around : Surroundings} {front choices : Choices} {settings : Settings}
  {backend : Backend} {toOutput : Bool} {terminal : Terminal} {paths files : List Path}
  {run run' : Run}

/-! ### Before anything is generated -/

/-- Settings that can be loaded decide how things are shown, and a log line
is all that loading adds. -/
theorem loadSettings_on_of_load {overrides : Settings.Values}
    (h : Settings.load run.workspace front.configFile overrides = .ok settings) :
    (loadSettings front overrides).on run
      = (.ok settings, (run.log [Log.debug "loading_configuration"]).settle front settings) := by
  have hlogged := Keeps.log [Log.debug "loading_configuration"] run
  simp only [loadSettings, on_bind, on_log, on_get]
  rw [hlogged.workspace, h]
  simp only [on_bind, on_modify, on_pure]

/-- What stops a run before it knows its files, with what is said of it: its
settings are to be shown and have no text, or the standard output refuses
them; or one of the paths cannot be searched. -/
inductive StopsEarly (settings : Settings) (toOutput : Bool) (terminal : Terminal)
    (paths : List Path) (run : Run) : Text → Prop
  | untitled {fault : Markup.Fault} : terminal.verbose = true →
      terminal.settings settings.shownEntries = .error fault →
      StopsEarly settings toOutput terminal paths run fault.message
  | unshown {displays : List Display} {message : Text} : terminal.verbose = true →
      terminal.settings settings.shownEntries = .ok displays →
      Unshown run.outlet toOutput displays message →
      StopsEarly settings toOutput terminal paths run message
  | unsearchable {message : Text} :
      Unsearchable run.workspace settings.excludePatterns paths message →
      StopsEarly settings toOutput terminal paths run message

/-- Only the files and the standard output count for whether a run stops
early, so steps that keep both can come first. -/
theorem StopsEarly.of_keeps {between : Run} {message : Text}
    (h : StopsEarly settings toOutput terminal paths between message)
    (hkept : Keeps run between) : StopsEarly settings toOutput terminal paths run message := by
  cases h with
  | untitled hverbose hfault => exact .untitled hverbose hfault
  | unshown hverbose hshown hrefused => exact .unshown hverbose hshown (hkept.outlet ▸ hrefused)
  | unsearchable hpath => exact .unsearchable (hkept.workspace ▸ hpath)

/-- The settings are shown if they are to be, or they have no text, or the
standard output refuses them. -/
theorem showSettings_cases (paths : List Path) {result : Except Stop Unit}
    (hfaces : Faces toOutput terminal run.stream run.terminal)
    (h : (showSettings settings).on run = (result, run')) :
    Keeps run run' ∧ Faces toOutput terminal run'.stream run'.terminal
      ∧ (result = .ok () ∨ ∃ message, result = .error (.unexpected message)
        ∧ StopsEarly settings toOutput terminal paths run message) := by
  rw [showSettings, on_bind_of_ok (on_get run), hfaces.1] at h
  dsimp only at h
  split at h
  · next hverbose =>
    split at h
    · next shown hshown =>
      obtain ⟨hkept, hfaces', hcases⟩ := tell_faces hfaces h
      refine ⟨hkept, hfaces', hcases.imp_right ?_⟩
      rintro ⟨message, hresult, hrefused⟩
      exact ⟨message, hresult, .unshown hverbose hshown hrefused⟩
    · next fault hfault =>
      obtain ⟨rfl, rfl⟩ := Prod.mk.inj h
      exact ⟨.refl run, hfaces, .inr ⟨fault.message, rfl, .untitled hverbose hfault⟩⟩
  · obtain ⟨rfl, rfl⟩ := Prod.mk.inj h
    exact ⟨.refl run, hfaces, .inl rfl⟩

/-- The backend that a run asks: it is that of the settings, and has a key
if it needs one. -/
structure Chosen (ws : Workspace) (settings : Settings) (backend : Backend) : Prop where
  exists_config : ∃ config, settings.backendConfig ws.environment = .ok config
    ∧ (Backend.create config).2 = .ok backend ∧ lacksKey config = false

/-- The settings name a backend that is not there, or cannot be asked
without a key. -/
structure Refused (ws : Workspace) (settings : Settings) : Prop where
  exists_config : ∃ config, settings.backendConfig ws.environment = .ok config
    ∧ ∀ backend, (Backend.create config).2 = .ok backend → lacksKey config = true

/-- What is said of settings without a key. -/
def noKeyMessage (settings : Settings) : Text :=
  "No API key configured. Set " ++ settings.apiKeyVariable ++ " or pass --api-key"

/-- What is shown of the backend of some settings: that there is none, that
it has no key, or which one it is. -/
def backendNotice (terminal : Terminal) (settings : Settings) (config : Backend.Config) :
    List Display :=
  match (Backend.create config).2 with
  | .error e => terminal.error ("Failed to initialize LLM provider: " ++ e.message)
  | .ok backend =>
    if lacksKey config then terminal.error (noKeyMessage settings)
    else terminal.success
      ("Using " ++ config.provider ++ " provider with model " ++ backend.model)

/-- What stops a run that knows its files before it has a backend to ask,
with what is said of it: the standard output refuses the list of the files,
the settings lead to no backend that could be made, or the standard output
refuses what is shown of that backend. -/
inductive Unprepared (settings : Settings) (toOutput : Bool) (terminal : Terminal)
    (files : List Path) (run : Run) : Text → Prop
  | unlisted {message : Text} : Unshown run.outlet toOutput (terminal.fileList files) message →
      Unprepared settings toOutput terminal files run message
  | unconfigured {e : Utf8.EncodeError} :
      settings.backendConfig run.workspace.environment = .error e →
      Unprepared settings toOutput terminal files run e.message
  | unnamed {config : Backend.Config} {message : Text} :
      settings.backendConfig run.workspace.environment = .ok config →
      Unshown run.outlet toOutput (backendNotice terminal settings config) message →
      Unprepared settings toOutput terminal files run message

/-- The same of a run that stops before it has its backend. Besides the
standard output the environment counts here, and that is a part of the
workspace. -/
theorem Unprepared.of_keeps {between : Run} {message : Text}
    (h : Unprepared settings toOutput terminal files between message)
    (hkept : Keeps run between) : Unprepared settings toOutput terminal files run message := by
  cases h with
  | unlisted hrefused => exact .unlisted (hkept.outlet ▸ hrefused)
  | unconfigured hconfig => exact .unconfigured (hkept.workspace ▸ hconfig)
  | unnamed hconfig hrefused =>
      exact .unnamed (hkept.workspace ▸ hconfig) (hkept.outlet ▸ hrefused)

/-- The backend that a run goes on with, if it does not end for want of
one. -/
def backendOrStop (config : Backend.Config) : Except Stop Backend :=
  match (Backend.create config).2 with
  | .error _ => .error (.exit 1)
  | .ok backend => if lacksKey config then .error (.exit 1) else .ok backend

/-- Up to its message, making a backend is settled by the settings and the
environment: which displays there will be, and what comes of it if they are
taken. -/
theorem createBackend_on {config : Backend.Config}
    (hconfig : settings.backendConfig run.workspace.environment = .ok config) :
    ∃ prepared, Keeps run prepared ∧ prepared.stream = run.stream
      ∧ prepared.terminal = run.terminal
      ∧ (createBackend settings).on run
        = (do tell (backendNotice · settings config); ofExcept (backendOrStop config)).on
          prepared := by
  have hlogged := Keeps.log (Log.info "initializing_generator" :: (Backend.create config).1) run
  have hconfigured : (configOf settings).on run = (.ok config, run) := by
    rw [configOf, on_bind_of_ok (on_get run), hconfig]
    rfl
  rw [createBackend, on_bind_of_ok hconfigured]
  dsimp only
  rw [on_bind_of_ok (on_log _ _)]
  simp only [backendNotice, backendOrStop]
  cases hcreated : (Backend.create config).2 with
  | error e => exact ⟨_, hlogged.trans (.log _ _), rfl, rfl, on_bind_of_ok (on_log _ _)⟩
  | ok backend =>
      dsimp only
      rw [on_bind_of_ok (on_modify _ _)]
      cases lacksKey config with
      | true =>
          exact ⟨_, (hlogged.trans (.backends _ _)).trans (.log _ _), rfl, rfl,
            on_bind_of_ok (on_log _ _)⟩
      | false => exact ⟨_, hlogged.trans (.backends _ _), rfl, rfl, rfl⟩

/-- A backend that a run goes on with is chosen by its settings, and without
one they are refused. -/
theorem chosen_or_refused {ws : Workspace} {config : Backend.Config}
    (hconfig : settings.backendConfig ws.environment = .ok config) :
    (backendOrStop config = .error (.exit 1) ∧ Refused ws settings)
      ∨ ∃ backend, backendOrStop config = .ok backend ∧ Chosen ws settings backend := by
  rw [backendOrStop]
  cases hcreated : (Backend.create config).2 with
  | error e =>
      -- There is no backend of that name, so none that could have a key.
      refine .inl ⟨rfl, config, hconfig, fun backend hbackend => ?_⟩
      exact nomatch hcreated.symm.trans hbackend
  | ok backend =>
      dsimp only
      cases hkey : lacksKey config with
      | true => exact .inl ⟨rfl, config, hconfig, fun _ _ => hkey⟩
      | false => exact .inr ⟨backend, rfl, config, hconfig, hcreated, hkey⟩

/-- A backend is made, or the run ends with 1, since there is no such
backend or it has no key, or it stops before that: its settings cannot be
completed, or the standard output refuses to show it. -/
theorem createBackend_cases (files : List Path) {result : Except Stop Backend}
    (hfaces : Faces toOutput terminal run.stream run.terminal)
    (h : (createBackend settings).on run = (result, run')) :
    Keeps run run' ∧ ((∃ message, result = .error (.unexpected message)
        ∧ Unprepared settings toOutput terminal files run message)
      ∨ (result = .error (.exit 1) ∧ Refused run.workspace settings)
      ∨ ∃ backend, result = .ok backend ∧ Chosen run.workspace settings backend) := by
  cases hconfig : settings.backendConfig run.workspace.environment with
  | error e =>
      simp only [createBackend, configOf, on_bind, on_get, hconfig, on_throw] at h
      obtain ⟨rfl, rfl⟩ := Prod.mk.inj h
      exact ⟨.refl run, .inl ⟨e.message, rfl, .unconfigured hconfig⟩⟩
  | ok config =>
      obtain ⟨prepared, hprepared, hstream, hterminal, hon⟩ := createBackend_on hconfig
      rw [← hstream, ← hterminal] at hfaces
      rw [hon] at h
      cases htell : (tell (backendNotice · settings config)).on prepared with | mk told between =>
      obtain ⟨htold, -, rfl | ⟨message, rfl, hrefused⟩⟩ := tell_faces hfaces htell
      · rw [on_bind_of_ok htell, on_ofExcept] at h
        obtain ⟨rfl, rfl⟩ := Prod.mk.inj h
        exact ⟨hprepared.trans htold, .inr (chosen_or_refused hconfig)⟩
      · obtain ⟨rfl, rfl⟩ := eq_of_stopped htell h
        exact ⟨hprepared.trans htold,
          .inl ⟨message, rfl, .unnamed hconfig (hprepared.outlet ▸ hrefused)⟩⟩

/-! ### Generating -/

/-- The generator of a run, with its backend. -/
def generatorFor (around : Surroundings) (backend : Backend) : Generator :=
  ⟨some (.ofBackend around.transport backend), none⟩

/-- The service was asked about files that could be read, about each of
them once, and about nothing else. -/
def AsksOnce (around : Surroundings) (settings : Settings) (files : List Path)
    (run run' : Run) : Prop :=
  ∃ asked, (batchFor around run.workspace settings files).Asked asked
    ∧ run'.inquiries = run.inquiries ++ asked.map fun entry => .prompt entry.2

/-- Who is asked what depends on the files and on what was asked before, so
steps that change neither can come before and behind. -/
theorem AsksOnce.of_eq {between between' : Run}
    (h : AsksOnce around settings files between between')
    (hworkspace : between.workspace = run.workspace)
    (hinquiries : between.inquiries = run.inquiries)
    (hinquiries' : run'.inquiries = between'.inquiries) :
    AsksOnce around settings files run run' := by
  obtain ⟨asked, hasked, hsent⟩ := h
  refine ⟨asked, hworkspace ▸ hasked, ?_⟩
  rw [hinquiries', hsent, hinquiries]

/-- What the files of a run have come to: each has a result, which is the
one that it comes to alone at its turn. -/
structure Generated (around : Surroundings) (settings : Settings) (backend : Backend)
    (files : List Path) (results : Results) (run run' : Run) : Prop where
  listed : results.map Prod.fst = files
  alone : ∀ i entry, results[i]? = some entry →
    (batchFor around run.workspace settings files).outcome (generatorFor around backend) i entry.1
      = .settled entry.2
  asked : AsksOnce around settings files run run'

/-- Only the files and the inquiries count. So what a batch has come to can
be said of the run before it and of the run behind it. -/
theorem Generated.of_eq {results : Results} {between between' : Run}
    (h : Generated around settings backend files results between between')
    (hworkspace : between.workspace = run.workspace)
    (hinquiries : between.inquiries = run.inquiries)
    (hinquiries' : run'.inquiries = between'.inquiries) :
    Generated around settings backend files results run run' :=
  ⟨h.listed, hworkspace ▸ h.alone, h.asked.of_eq hworkspace hinquiries hinquiries'⟩

/-- What the batch of the files comes to, with the backend that is asked. -/
def conclusionFor (around : Surroundings) (settings : Settings) (backend : Backend)
    (files : List Path) (ws : Workspace) : Batch.Conclusion :=
  (batchFor around ws settings files).run (around.patience backend.service)
    (generatorFor around backend)

/-- What stands beside the bar of a batch that has ended. -/
def barText (files : List Path) (conclusion : Batch.Conclusion) : Text :=
  Markup.plain (lastDone files conclusion.reports)

/-- The report of a batch, or what stops the run for want of one. -/
def reportOrStop : Except Generation.Breakdown Batch.Report → Except Stop Batch.Report
  | .ok report => .ok report
  | .error .interrupted => .error .interrupted
  | .error breakdown => .error (.unexpected breakdown.message)

/-- A batch that breaks down is not caught, be it that somebody interrupts
it or that an error escapes. -/
theorem uncaught_reportOrStop (breakdown : Generation.Breakdown) :
    Uncaught (reportOrStop (.error breakdown)) := by
  cases breakdown with
  | interrupted => exact .inr rfl
  | _ => exact .inl ⟨_, rfl⟩

/-- A run that has had its files documented, and has yet to show its bar and
to look at the report: it has asked what the batch asks, and has changed
nothing else. -/
structure Documented (prompts : List Text) (run asked : Run) : Prop where
  workspace : asked.workspace = run.workspace
  documents : asked.documents = run.documents
  outlet : asked.outlet = run.outlet
  stream : asked.stream = run.stream
  terminal : asked.terminal = run.terminal
  inquiries : asked.inquiries = run.inquiries ++ prompts.map Inquiry.prompt

/-- The batch is run, and what it asked and reported is put into the run.
Only the bar that counts the files is shown. -/
theorem documentFiles_on (around : Surroundings) (settings : Settings) (backend : Backend)
    (files : List Path) (run : Run) :
    ∃ asked, Documented (conclusionFor around settings backend files run.workspace).prompts run
        asked
      ∧ (documentFiles around settings backend files).on run
        = (do
            countTo files.length
              (barText files (conclusionFor around settings backend files run.workspace))
            ofExcept (reportOrStop
              (conclusionFor around settings backend files run.workspace).report)).on asked := by
  have hstarted := Keeps.log [Log.info "starting_file_processing"] run
  rw [documentFiles, on_bind_of_ok (on_log _ _), on_bind_of_ok (on_get _), hstarted.workspace]
  generalize hconclusion : conclusionFor around settings backend files run.workspace = conclusion
  rw [conclusionFor, generatorFor] at hconclusion
  dsimp only
  rw [hconclusion, on_bind_of_ok (on_modify _ _), on_bind_of_ok (on_log _ _)]
  let sent : Run := { run.log [Log.info "starting_file_processing"] with
    inquiries := run.inquiries ++ conclusion.prompts.map Inquiry.prompt }
  have hdone := Keeps.log conclusion.log sent
  refine ⟨sent.log conclusion.log, ⟨hdone.workspace.trans hstarted.workspace,
    hdone.documents.trans hstarted.documents, hdone.outlet, rfl, rfl, hdone.inquiries⟩, ?_⟩
  cases conclusion.report with
  | ok report => rfl
  | error breakdown => cases breakdown <;> rfl

/-- The standard output refuses the bar of a terminal that is not quiet. -/
def Uncounted (outlet : Outlet) (toOutput : Bool) (terminal : Terminal) (total : Nat)
    (description message : Text) : Prop :=
  toOutput = false ∧ terminal.quiet = false
    ∧ outlet.refusal? (.progress .output total description) = some message

/-- The batch of some files breaks down, or there is a report on what each
of them has come to. Who was asked does not depend on which of the two it
is. -/
theorem conclusion_cases {asked : Run} (hasks : AsksOnce around settings files run asked) :
    (∃ breakdown, (conclusionFor around settings backend files run.workspace).report
        = .error breakdown)
      ∨ ∃ results, (conclusionFor around settings backend files run.workspace).report
          = .ok (reportOf results)
        ∧ Generated around settings backend files results run asked := by
  cases hreport : (conclusionFor around settings backend files run.workspace).report with
  | error breakdown => exact .inl ⟨breakdown, rfl⟩
  | ok report =>
      obtain ⟨results, hresults⟩ := Batch.exists_results_of_report hreport
      have hreported : report = reportOf results := by
        obtain ⟨docs, failures⟩ := report
        rw [reportOf, docsOf, ← hresults.docs, ← hresults.failures]
      exact .inr ⟨results, hreported ▸ rfl, hresults.listed, hresults.alone, hasks⟩

/-- Documenting files writes nothing and asks about each file once. Either
the batch breaks down, or its results are known and there is a report on
them, unless the bar is refused. -/
theorem documentFiles_cases {result : Except Stop Batch.Report} (hfiles : files.Nodup)
    (hfaces : Faces toOutput terminal run.stream run.terminal)
    (h : (documentFiles around settings backend files).on run = (result, run')) :
    run'.workspace = run.workspace ∧ run'.documents = run.documents ∧ run'.outlet = run.outlet
      ∧ AsksOnce around settings files run run'
      ∧ (((∃ breakdown, (conclusionFor around settings backend files run.workspace).report
            = .error breakdown) ∧ Uncaught result)
        ∨ ∃ results, Generated around settings backend files results run run'
          ∧ (result = .ok (reportOf results) ∨ ∃ message, result = .error (.unexpected message)
            ∧ Uncounted run.outlet toOutput terminal files.length
              (barText files (conclusionFor around settings backend files run.workspace))
              message)) := by
  obtain ⟨asked, hasked, hon⟩ := documentFiles_on around settings backend files run
  rw [hon] at h
  rw [← hasked.stream, ← hasked.terminal] at hfaces
  obtain ⟨sent, hsent, hprompts⟩ := Batch.exists_asked_of_run
    (b := batchFor around run.workspace settings files) hfiles (around.patience backend.service)
    (generatorFor around backend)
  have hasks : AsksOnce around settings files run asked := by
    refine ⟨sent, hsent, ?_⟩
    rw [hasked.inquiries, conclusionFor, hprompts, List.map_map]
    rfl
  cases hcount : (countTo files.length
    (barText files (conclusionFor around settings backend files run.workspace))).on asked with
  | mk counted between =>
  obtain ⟨hkept, hcounted⟩ := countTo_cases hcount
  have hworkspace := hkept.workspace.trans hasked.workspace
  have hdocuments := hkept.documents.trans hasked.documents
  have houtlet := hkept.outlet.trans hasked.outlet
  replace hasks := hasks.of_eq rfl rfl hkept.inquiries
  -- Whatever becomes of the bar, the batch has come to its end before it.
  rcases hcounted with rfl | ⟨message, rfl, hstream, hquiet, hrefused⟩
  · rw [on_bind_of_ok hcount, on_ofExcept] at h
    obtain ⟨rfl, rfl⟩ := Prod.mk.inj h
    refine ⟨hworkspace, hdocuments, houtlet, hasks, ?_⟩
    rcases conclusion_cases hasks with ⟨breakdown, hbroken⟩ | ⟨results, hreport, hgenerated⟩
    · rw [hbroken]
      exact .inl ⟨⟨breakdown, rfl⟩, uncaught_reportOrStop breakdown⟩
    · rw [hreport]
      exact .inr ⟨results, hgenerated, .inl rfl⟩
  · obtain ⟨rfl, rfl⟩ := eq_of_stopped hcount h
    have huncounted : Uncounted run.outlet toOutput terminal files.length
        (barText files (conclusionFor around settings backend files run.workspace)) message :=
      ⟨hfaces.toOutput_eq_false hstream, hfaces.1 ▸ hquiet, hasked.outlet ▸ hrefused⟩
    refine ⟨hworkspace, hdocuments, houtlet, hasks, ?_⟩
    rcases conclusion_cases hasks with hbroken | ⟨results, -, hgenerated⟩
    · exact .inl ⟨hbroken, .inl ⟨message, rfl⟩⟩
    · exact .inr ⟨results, hgenerated, .inr ⟨message, rfl, huncounted⟩⟩

/-! ### The whole command -/

/-- How a run of the command can end. -/
inductive Ends (around : Surroundings) (settings : Settings) (toOutput : Bool)
    (terminal : Terminal) (paths : List Path) (run : Run) : Except Stop Unit → Run → Prop
  /-- The settings cannot be shown, or a path cannot be searched. -/
  | stopped {message : Text} {run' : Run} :
      StopsEarly settings toOutput terminal paths run message → Keeps run run' →
      Ends around settings toOutput terminal paths run (.error (.unexpected message)) run'
  | nothingFound {run' : Run} :
      Discovered run.workspace settings.excludePatterns paths [] → Keeps run run' →
      Ends around settings toOutput terminal paths run (.ok ()) run'
  /-- The files cannot be shown, or their backend cannot be made or shown. -/
  | unprepared {files : List Path} {message : Text} {run' : Run} :
      Discovered run.workspace settings.excludePatterns paths files → files ≠ [] →
      Unprepared settings toOutput terminal files run message → Keeps run run' →
      Ends around settings toOutput terminal paths run (.error (.unexpected message)) run'
  /-- There is nobody to ask. -/
  | refused {files : List Path} {run' : Run} :
      Discovered run.workspace settings.excludePatterns paths files → files ≠ [] →
      Refused run.workspace settings → Keeps run run' →
      Ends around settings toOutput terminal paths run (.error (.exit 1)) run'
  /-- The batch of the files breaks down. -/
  | broken {files : List Path} {backend : Backend} {breakdown : Generation.Breakdown}
      {result : Except Stop Unit} {run' : Run} :
      Discovered run.workspace settings.excludePatterns paths files → files ≠ [] →
      Chosen run.workspace settings backend →
      (conclusionFor around settings backend files run.workspace).report = .error breakdown →
      Uncaught result → AsksOnce around settings files run run' →
      run'.workspace = run.workspace → run'.documents = run.documents →
      Ends around settings toOutput terminal paths run result run'
  /-- All files came to results, but the bar that has counted them is
  refused. -/
  | uncounted {files : List Path} {backend : Backend} {results : Results} {message : Text}
      {run' : Run} :
      Discovered run.workspace settings.excludePatterns paths files → files ≠ [] →
      Chosen run.workspace settings backend →
      Generated around settings backend files results run run' →
      Uncounted run.outlet toOutput terminal files.length
        (barText files (conclusionFor around settings backend files run.workspace)) message →
      run'.workspace = run.workspace → run'.documents = run.documents →
      Ends around settings toOutput terminal paths run (.error (.unexpected message)) run'
  /-- All files came to results, and the run goes on with these. -/
  | concluded {files : List Path} {backend : Backend} {results : Results}
      {result : Except Stop Unit} {run' : Run} :
      Discovered run.workspace settings.excludePatterns paths files → files ≠ [] →
      Chosen run.workspace settings backend →
      Generated around settings backend files results run run' →
      Concludes around settings toOutput terminal results run result run' →
      Ends around settings toOutput terminal paths run result run'

/-- With files to document a run ends as `Ends` has it. The steps are taken
apart in order: the list of files, the backend, the batch, the report. Of
each of them there is a lemma that says what it comes to. -/
theorem process_ends {result : Except Stop Unit}
    (hfound : Discovered run.workspace settings.excludePatterns paths files) (hsome : files ≠ [])
    (hfaces : Faces toOutput terminal run.stream run.terminal)
    (h : (process around settings toOutput files).on run = (result, run')) :
    Ends around settings toOutput terminal paths run result run' := by
  have hfiles : files.Nodup := hfound.places.of_map Path.segments
  rw [process] at h
  -- The list of the files.
  cases hlist : (tell (·.fileList files)).on run with | mk told listed =>
  obtain ⟨hlisted, hfaces', htold⟩ := tell_faces hfaces hlist
  rcases htold.symm with ⟨message, rfl, hrefused⟩ | rfl
  · obtain ⟨rfl, rfl⟩ := eq_of_stopped hlist h
    exact .unprepared hfound hsome (.unlisted hrefused) hlisted
  rw [on_bind_of_ok hlist] at h
  -- The backend.
  cases hcreate : (createBackend settings).on listed with | mk created chosen =>
  obtain ⟨hkept, hcreated⟩ := createBackend_cases files hfaces' hcreate
  rw [hlisted.workspace] at hcreated
  rcases hcreated with ⟨message, rfl, hstop⟩ | ⟨rfl, hrefused⟩ | ⟨backend, rfl, hchosen⟩
  · obtain ⟨rfl, rfl⟩ := eq_of_stopped hcreate h
    exact .unprepared hfound hsome (hstop.of_keeps hlisted) (hlisted.trans hkept)
  · obtain ⟨rfl, rfl⟩ := eq_of_stopped hcreate h
    exact .refused hfound hsome hrefused (hlisted.trans hkept)
  rw [on_bind_of_ok hcreate] at h
  have hready := hfaces'.of_emits (emits_createBackend (admits_all _) settings) hcreate
  replace hkept := hlisted.trans hkept
  -- The results.
  cases hdocument : (documentFiles around settings backend files).on chosen with
  | mk reported asked =>
  obtain ⟨hworkspace, hdocuments, houtlet, hasks, hreported⟩ :=
    documentFiles_cases hfiles hready hdocument
  replace hworkspace := hworkspace.trans hkept.workspace
  replace hdocuments := hdocuments.trans hkept.documents
  replace houtlet := houtlet.trans hkept.outlet
  rw [hkept.workspace] at hreported
  rcases hreported with ⟨⟨breakdown, hbroken⟩, hstop⟩ | ⟨results, hgenerated, hreported⟩
  · obtain ⟨hresult, rfl⟩ := on_bind_of_uncaught hdocument hstop h
    exact .broken hfound hsome hchosen hbroken hresult
      (hasks.of_eq hkept.workspace hkept.inquiries rfl) hworkspace hdocuments
  rcases hreported.symm with ⟨message, rfl, hrefused⟩ | rfl
  · obtain ⟨rfl, rfl⟩ := eq_of_stopped hdocument h
    exact .uncounted hfound hsome hchosen (hgenerated.of_eq hkept.workspace hkept.inquiries rfl)
      (hkept.outlet ▸ hrefused) hworkspace hdocuments
  -- The document.
  rw [on_bind_of_ok hdocument] at h
  have hasked := hready.of_emits (emits_documentFiles (admits_all _) _ _ _ _) hdocument
  obtain ⟨hinquiries, hconcludes⟩ := afterReport_cases hasked h
  exact .concluded hfound hsome hchosen
    (hgenerated.of_eq hkept.workspace hkept.inquiries hinquiries)
    (hconcludes.of_eq hworkspace hdocuments houtlet)

/-- A step that keeps the workspace and whatever was asked and delivered can
come before the end of a run. -/
theorem Ends.of_keeps {result : Except Stop Unit} {between : Run}
    (h : Ends around settings toOutput terminal paths between result run')
    (hkept : Keeps run between) :
    Ends around settings toOutput terminal paths run result run' := by
  have hworkspace := hkept.workspace
  cases h with
  | stopped hstop hsame => exact .stopped (hstop.of_keeps hkept) (hkept.trans hsame)
  | nothingFound hfound hsame => exact .nothingFound (hworkspace ▸ hfound) (hkept.trans hsame)
  | unprepared hfound hsome hstop hsame =>
      exact .unprepared (hworkspace ▸ hfound) hsome (hstop.of_keeps hkept) (hkept.trans hsame)
  | refused hfound hsome hrefused hsame =>
      exact .refused (hworkspace ▸ hfound) hsome (hworkspace ▸ hrefused) (hkept.trans hsame)
  | broken hfound hsome hchosen hbroken hstop hasks hsame hnone =>
      exact .broken (hworkspace ▸ hfound) hsome (hworkspace ▸ hchosen) (hworkspace ▸ hbroken) hstop
        (hasks.of_eq hworkspace hkept.inquiries rfl) (hsame.trans hworkspace)
        (hnone.trans hkept.documents)
  | uncounted hfound hsome hchosen hgenerated hrefused hsame hnone =>
      exact .uncounted (hworkspace ▸ hfound) hsome (hworkspace ▸ hchosen)
        (hgenerated.of_eq hworkspace hkept.inquiries rfl) (hkept.outlet ▸ hworkspace ▸ hrefused)
        (hsame.trans hworkspace) (hnone.trans hkept.documents)
  | concluded hfound hsome hchosen hgenerated hconcludes =>
      exact .concluded (hworkspace ▸ hfound) hsome (hworkspace ▸ hchosen)
        (hgenerated.of_eq hworkspace hkept.inquiries rfl)
        (hconcludes.of_eq hworkspace hkept.documents hkept.outlet)

/-- The command behind its banner, which it shows wherever its displays
go. -/
def afterBanner (around : Surroundings) (front choices : Choices) (paths : List Path) :
    Procedure Unit := do
  let settings ← loadSettings front choices.overrides
  showSettings settings
  tell (·.info ("Scanning " ++ Text.ofNat paths.length ++ " path(s)..."))
  let files ← discover settings.excludePatterns [] paths
  if files.isEmpty then tell (·.warning "No supported source files found")
  else process around settings choices.toOutput files

/-- The run with its banner shown, wherever its displays go. -/
def begun (choices : Choices) (run : Run) : Run :=
  let directed : Run := if choices.toOutput then { run with stream := .errors } else run
  directed.display directed.terminal.banner

/-- The banner has bytes: it is a fixed text, so this can be tried out. So
every standard output takes it. -/
theorem banner_spelled :
    ∀ display ∈ [Display.panel none none
        (.text "apidocgen\nAI-Powered API Documentation Generator")],
      ∀ t ∈ display.toLines, Utf8.encodeError? t = none := by
  decide +kernel

/-- Every standard output takes the banner, so that the command goes on
behind it. -/
theorem generate_on (around : Surroundings) (front choices : Choices) (paths : List Path)
    (run : Run) :
    (generate around front choices paths).on run
      = (afterBanner around front choices paths).on (begun choices run) := by
  have hbanner : ∀ directed : Run, (tell (·.banner)).on directed
      = (.ok (), directed.display directed.terminal.banner) :=
    on_tell_unlessQuiet banner_spelled
  cases houtput : choices.toOutput with
  | true =>
      simp only [generate, begun, houtput, if_true]
      rw [on_bind_of_ok (on_modify _ _), on_bind_of_ok (hbanner _), afterBanner, houtput]
  | false =>
      simp only [generate, begun, houtput, Bool.false_eq_true, if_false]
      rw [on_bind_of_ok (hbanner _), afterBanner, houtput]

/-- To begin changes nothing but where displays go, and what the terminal
has received: the banner is a display. -/
theorem keeps_begun (choices : Choices) (run : Run) : Keeps run (begun choices run) := by
  refine Keeps.trans ?_ (.display _ _)
  split
  · exact .redirected run
  · exact .refl run

/-- The terminal of a run with its settings. -/
def settledTerminal (run : Run) (settings : Settings) : Terminal :=
  ⟨run.terminal.verbose || settings.verbose, run.terminal.quiet || settings.quiet⟩

/-- Once its settings are loaded a run shows everything on one terminal, and
nothing of it where its document goes. -/
theorem faces_settled (front choices : Choices) (settings : Settings) (run : Run) :
    Faces choices.toOutput (settledTerminal run settings)
      (((begun choices run).log [Log.debug "loading_configuration"]).settle front settings).stream
      (((begun choices run).log [Log.debug "loading_configuration"]).settle front
        settings).terminal := by
  cases houtput : choices.toOutput with
  | true =>
      refine ⟨?_, fun _ => ?_⟩ <;> simp only [begun, houtput, if_true] <;> rfl
  | false =>
      refine ⟨?_, by rintro ⟨⟩⟩
      simp only [begun, houtput, Bool.false_eq_true, if_false]
      rfl

/-- The message that the search begins has bytes, for any number of
paths. -/
theorem isWhole_scanning (paths : List Path) :
    Json.IsWhole ("Scanning " ++ Text.ofNat paths.length ++ " path(s)...") :=
  Json.isWhole_append (Json.isWhole_append (by decide) (Json.isWhole_ofNat _)) (by decide)

/-- A run stops before it knows its files, or finds none, or goes on to
document them. In the last case nothing has changed yet but what is shown,
and the displays face the way that the settings ask for. -/
theorem generate_cases (around : Surroundings) (paths : List Path)
    (hloaded : Settings.load run.workspace front.configFile choices.overrides = .ok settings)
    {result : Except Stop Unit}
    (h : (generate around front choices paths).on run = (result, run')) :
    (∃ message, result = .error (.unexpected message)
        ∧ StopsEarly settings choices.toOutput (settledTerminal run settings) paths run message
        ∧ Keeps run run')
      ∨ (Discovered run.workspace settings.excludePatterns paths [] ∧ result = .ok ()
        ∧ Keeps run run')
      ∨ ∃ files found, Discovered run.workspace settings.excludePatterns paths files
        ∧ files ≠ [] ∧ Keeps run found
        ∧ Faces choices.toOutput (settledTerminal run settings) found.stream found.terminal
        ∧ (process around settings choices.toOutput files).on found = (result, run') := by
  have hbegun := keeps_begun choices run
  have hload := loadSettings_on_of_load (hbegun.workspace ▸ hloaded)
  have hfaces := faces_settled front choices settings run
  have hready : Keeps run _ := hbegun.trans ((Keeps.log [Log.debug "loading_configuration"] _).trans
    (.settle front settings _))
  rw [generate_on, afterBanner, on_bind_of_ok hload] at h
  generalize Run.settle _ front settings = ready at h hfaces hready
  -- The settings, for whoever wants to see them.
  cases hshow : (showSettings settings).on ready with | mk shown told =>
  obtain ⟨htold, hfaces', hshown⟩ := showSettings_cases paths hfaces hshow
  rcases hshown.symm with ⟨message, rfl, hstop⟩ | rfl
  · obtain ⟨rfl, rfl⟩ := eq_of_stopped hshow h
    exact .inl ⟨message, rfl, hstop.of_keeps hready, hready.trans htold⟩
  replace htold := hready.trans htold
  rw [on_bind_of_ok hshow] at h
  -- The search.
  have hscan : (tell (·.info ("Scanning " ++ Text.ofNat paths.length ++ " path(s)..."))).on told
      = (.ok (), told.display
        (told.terminal.info ("Scanning " ++ Text.ofNat paths.length ++ " path(s)..."))) :=
    on_tell_status (by decide) (isWhole_scanning paths) told
  obtain ⟨hscanning, hfaces'', -⟩ := tell_faces hfaces' hscan
  replace hscanning := htold.trans hscanning
  rw [on_bind_of_ok hscan] at h
  generalize told.display _ = scanning at h hfaces'' hscanning
  cases hdiscover : (discover settings.excludePatterns [] paths).on scanning with
  | mk found looked =>
  obtain ⟨hlooked, hfound⟩ := discovered_of_discover hdiscover
  rw [hscanning.workspace] at hfound
  replace hlooked := hscanning.trans hlooked
  rcases hfound with ⟨message, rfl, hstop⟩ | ⟨files, rfl, hfound⟩
  · obtain ⟨rfl, rfl⟩ := eq_of_stopped hdiscover h
    exact .inl ⟨message, rfl, .unsearchable hstop, hlooked⟩
  rw [on_bind_of_ok hdiscover] at h
  split at h
  · next hnone =>
    obtain rfl := List.isEmpty_iff.mp hnone
    have hwarned : (tell (·.warning "No supported source files found")).on looked
        = (.ok (), looked.display (looked.terminal.warning "No supported source files found")) :=
      on_tell_status (by decide) (by decide) looked
    rw [hwarned] at h
    obtain ⟨rfl, rfl⟩ := Prod.mk.inj h
    exact .inr (.inl ⟨hfound, rfl, hlooked.trans (.display _ _)⟩)
  · next hsome =>
    exact .inr (.inr ⟨files, looked, hfound, fun hnone => hsome (List.isEmpty_iff.mpr hnone),
      hlooked, hfaces''.of_emits (emits_discover (admits_all _) _ _ _) hdiscover, h⟩)

/-- **How documenting source files ends.** Whatever the paths are, whatever
the service answers, call by call, and whatever the standard output takes, a
run of the command with settings that could be loaded ends in one of these
ways:

* it is stopped before it knows its files: the settings are to be shown and
  cannot be, or a path cannot be searched;
* nothing was found, and the run is over without an inquiry or a change;
* it is stopped before it has a backend to ask: the list of the files or
  what there is to say of the backend cannot be shown, or the backend cannot
  be configured;
* there is no backend to ask, which is an error that is shown;
* the batch of the files breaks down; nothing was written or brought out,
  and each file was asked about once at most;
* every file that was found, each of them once and in the order of
  discovery, has a result, but the bar that has counted them cannot be
  shown;
* or every file has a result, and the run goes on with these. The document
  of those that succeeded is delivered, if there are any, and the status
  tells whether any failed; or the standard output refuses what is shown of
  the results, or the document cannot be made, brought out or written, or it
  is delivered and the standard output refuses what is said of that. -/
theorem generate_ends (around : Surroundings) (paths : List Path)
    (hloaded : Settings.load run.workspace front.configFile choices.overrides = .ok settings) :
    Ends around settings choices.toOutput (settledTerminal run settings) paths run
      ((generate around front choices paths).on run).1
      ((generate around front choices paths).on run).2 := by
  rcases hgenerate : (generate around front choices paths).on run with ⟨result, run'⟩
  show Ends around settings choices.toOutput (settledTerminal run settings) paths run result run'
  rcases generate_cases around paths hloaded hgenerate with
    ⟨message, rfl, hstop, hkept⟩ | ⟨hnone, rfl, hkept⟩ |
    ⟨files, found, hfound, hsome, hkept, hfaces, hprocess⟩
  · exact .stopped hstop hkept
  · exact .nothingFound hnone hkept
  · exact (process_ends (hkept.workspace ▸ hfound) hsome hfaces hprocess).of_keeps hkept

/-- The settings of which nothing is said anywhere. -/
def usualSettings : Settings :=
  { provider := "openai", model := none, apiKey := none, apiKeyVariable := "OPENAI_API_KEY"
    localHost := "http://localhost:11434", localModel := "llama2"
    temperature := Backend.Config.defaultTemperature, maxTokens := Backend.Config.defaultMaxTokens
    timeout := none, outputFormat := .markdown, outputFolder := Path.ofText "docs"
    includeExamples := true, excludePatterns := [], concurrency := 1, verbose := false
    quiet := false, logLevel := .info, logFormat := .console }

/-- A folder with one source file, and a key. -/
def oneFile : Workspace :=
  ⟨.folder [("a.py", .file [0x78])], [], [("OPENAI_API_KEY", "k")]⟩

/-- A service that answers everything with one word in red. -/
def reddening : Surroundings :=
  { transport := fun _ =>
      { chat := fun _ => .answered (.ofText (.str "gpt-4")
          "\x7b\"overview\": \"\\u001b[31mred\\u001b[0m\"\x7d")
        generate := fun _ => .interrupted
        list := .interrupted }
    outlet := .unlimited
    patience := fun _ => 0
    moment := ⟨63000000000, 0⟩
    seconds := .nan }

/-- What becomes of the file. -/
def redDoc : FileDoc :=
  { overview := "\u001b[31mred\u001b[0m", functions := [], classes := [], interfaces := []
    constants := [], types := [], fileName := some "a.py", filePath := some "/a.py" }

/-- The choice of the standard output. -/
def printing : Choices := { Choices.none with toOutput := true }

/-- The file, named in two ways, is documented on the standard output. -/
def redRun : Except Stop Unit × Run :=
  (generate reddening .none printing [Path.ofText "a.py", Path.ofText "./a.py"]).on
    (Run.start oneFile)

/-- One inquiry and one document for the file, although it is named twice:
the paths are different words for it. -/
theorem redRun_prints_one_document :
    Settings.load (Run.start oneFile).workspace Choices.none.configFile printing.overrides
        = .ok usualSettings
      ∧ Ends reddening usualSettings printing.toOutput (settledTerminal (Run.start oneFile)
          usualSettings) [Path.ofText "a.py", Path.ofText "./a.py"] (Run.start oneFile) redRun.1
        redRun.2
      ∧ redRun.2.inquiries.length = 1 ∧ redRun.2.documents.length = 1 :=
  ⟨rfl, generate_ends reddening [Path.ofText "a.py", Path.ofText "./a.py"] rfl,
    by decide +kernel, by decide +kernel⟩

/-- The file has succeeded, but its document is not the one that is brought
out: the control sequences in it are missing. -/
theorem redRun_printed_otherwise :
    redRun.1.toBool = true
      ∧ (Document.renderAt? .markdown reddening.moment [redDoc]).isSome = true
      ∧ redRun.2.documents ≠ (Document.renderAt? .markdown reddening.moment [redDoc]).toList
      ∧ redRun.2.documents
        = ((Document.renderAt? .markdown reddening.moment [redDoc]).map
          Control.dropSequences).toList := by
  decide +kernel

end DocScribe.CommandLine.Generate
