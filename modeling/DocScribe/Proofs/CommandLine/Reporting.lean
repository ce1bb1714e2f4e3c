import DocScribe.CommandLine.Generate
import DocScribe.Proofs.CommandLine.Steps
import DocScribe.Proofs.Settings.Faults

/-!
# `DocScribe.Proofs.CommandLine.Reporting`: how configuration problems come out

A run loads its settings first. If their configuration is invalid, it says
so and ends with 1, unless there is a surrogate in what it would say and the
standard output refuses to show that; what else
keeps them from being loaded was not foreseen and ends the run as it is
(`loadSettings_of_invalid`, `loadSettings_of_unforeseen`).

`problems_accounted` says which problems are of the second kind: those that
`Settings.Escapes` names, and no others. Among them are the files that nest
too deep or hold a value of a wrong type where a table should be, and these
never come out as an invalid configuration. Some of them are not even passed over when they
are project files in which nothing could be said about settings
(`scalarTools_unreported`).
-/

set_option autoImplicit false

namespace DocScribe.CommandLine.Generate

open Procedure

variable {front : Choices} {overrides : Settings.Values} {fault : Settings.Fault} {run : Run}

/-- An error is shown between a run and a later one. -/
def Says (run run' : Run) (message : Text) : Prop :=
  ∀ shown ∈ run.terminal.error message, .shown run.stream shown ∈ run'.emissions

/-- An error is reported: it is shown and the run ends with 1. Only a
surrogate in its message keeps it back, where the standard output refuses to
show that; then it is the refusal that stops the run. -/
def Reported {α : Type} (run run' : Run) (message : Text) (result : Except Stop α) : Prop :=
  (result = .error (.exit 1) ∧ Says run run' message)
    ∨ ∃ refusal, result = .error (.unexpected refusal) ∧ run.stream = .output
      ∧ ¬ Json.IsWhole message ∧ run.outlet.Refuses (run.terminal.error message) refusal

/-- What is left to do for settings that are invalid. -/
def reportInvalid (fault : Settings.Fault) : Procedure Settings := do
  tell (·.error ("Invalid configuration: " ++ fault.message))
  log [Log.error "configuration_invalid"]
  throw (.exit 1)

/-- Settings that cannot be loaded are invalid, which is reported, or words
have asked for an end, or the run stops with the fault as it is. These are
all the ways, and the fault tells which one it is. -/
theorem loadSettings_on_of_fault
    (h : Settings.load run.workspace front.configFile overrides = .error fault) :
    let logged := run.log [Log.debug "loading_configuration"]
    (fault.isInvalid = true
        ∧ (loadSettings front overrides).on run = (reportInvalid fault).on logged)
      ∨ (∃ status, fault = .words (.stopped status)
        ∧ (loadSettings front overrides).on run = (.error (.exit status), logged))
      ∨ (fault.isInvalid = false ∧ (∀ status, fault ≠ .words (.stopped status))
        ∧ (loadSettings front overrides).on run
          = (.error (.unexpected fault.message), logged)) := by
  have hlogged := Keeps.log [Log.debug "loading_configuration"] run
  dsimp only
  rw [loadSettings, on_bind_of_ok (on_log _ _), on_bind_of_ok (on_get _), hlogged.workspace, h]
  split
  · next heq => exact nomatch heq
  · next status heq => exact .inr (.inl ⟨status, Except.error.inj heq, rfl⟩)
  · next other hother heq =>
    obtain rfl := Except.error.inj heq
    cases hinvalid : fault.isInvalid with
    | true => exact .inl ⟨rfl, rfl⟩
    | false => exact .inr (.inr ⟨rfl, fun status hwords => hother status (hwords ▸ rfl), rfl⟩)

/-- Settings that are invalid are reported, and nothing else is done: no
file is read for documentation, nobody is asked, and nothing is written. -/
theorem loadSettings_of_invalid
    (h : Settings.load run.workspace front.configFile overrides = .error fault)
    (hinvalid : fault.isInvalid = true) :
    ∃ result run', (loadSettings front overrides).on run = (result, run') ∧ Keeps run run'
      ∧ Reported run run' ("Invalid configuration: " ++ fault.message) result := by
  rcases loadSettings_on_of_fault h with ⟨-, hon⟩ | ⟨status, rfl, -⟩ | ⟨hvalid, -⟩
  · rw [hon, reportInvalid]
    have hlogged := Keeps.log [Log.debug "loading_configuration"] run
    cases htell : (tell (·.error ("Invalid configuration: " ++ fault.message))).on
      (run.log [Log.debug "loading_configuration"]) with | mk said told =>
    obtain ⟨htold, ⟨rfl, rfl⟩ | ⟨refusal, rfl, hstream, hrefused⟩⟩ := tell_cases htell
    · rw [on_bind_of_ok htell, on_bind_of_ok (on_log _ _), on_throw]
      refine ⟨_, _, rfl, (hlogged.trans htold).trans (.log _ _), .inl ⟨rfl, fun line hline => ?_⟩⟩
      exact List.mem_append_left _ (List.mem_append_right _ (List.mem_map_of_mem hline))
    · rw [on_bind_of_error htell]
      exact ⟨_, told, rfl, hlogged.trans htold, .inr ⟨refusal, rfl, hstream,
        hrefused.not_isWhole_message (by decide), hrefused⟩⟩
  · exact nomatch hinvalid
  · exact nomatch hinvalid.symm.trans hvalid

/-- What else keeps settings from being loaded ends the run as something that
was not foreseen, unless words have asked for an end. -/
theorem loadSettings_of_unforeseen
    (h : Settings.load run.workspace front.configFile overrides = .error fault)
    (hinvalid : fault.isInvalid = false) (hwords : ∀ flaw, fault ≠ .words flaw) :
    ∃ run', Keeps run run'
      ∧ (loadSettings front overrides).on run = (.error (.unexpected fault.message), run') := by
  rcases loadSettings_on_of_fault h with ⟨hreported, -⟩ | ⟨status, hstopped, -⟩ | ⟨-, -, hon⟩
  · exact nomatch hinvalid.symm.trans hreported
  · exact absurd hstopped (hwords _)
  · exact ⟨_, .log _ run, hon⟩

/-- How problems with the configuration of a run come out. -/
structure Accounted (run : Run) (front : Choices) (overrides : Settings.Values) : Prop where
  /-- What keeps settings from being loaded is an invalid configuration or
  has one of the causes that are named. -/
  causes : ∀ fault, Settings.load run.workspace front.configFile overrides = .error fault →
    fault.isInvalid = true ∨ Settings.Escapes run.workspace front.configFile overrides fault
  /-- An invalid configuration is reported, and the run ends with 1. -/
  reported : ∀ fault, Settings.load run.workspace front.configFile overrides = .error fault →
    fault.isInvalid = true → ∃ result run',
      (loadSettings front overrides).on run = (result, run') ∧ Keeps run run'
        ∧ Reported run run' ("Invalid configuration: " ++ fault.message) result
  /-- A file of a wrong shape is never reported. -/
  misshapen : overrides.lookup Settings.pathName = none →
    ∀ fault, Settings.Misshapen run.workspace front.configFile fault →
      Settings.load run.workspace front.configFile overrides = .error fault
        ∧ fault.isInvalid = false
        ∧ ∃ run', (loadSettings front overrides).on run = (.error (.unexpected fault.message), run')
  /-- A project file is judged by what it holds. If it is passed over, the
  search goes on. -/
  judged : run.workspace.isFile? (Settings.ownPath run.workspace) = .ok false →
    run.workspace.isFile? (Settings.projectPath run.workspace) = .ok true →
    ∃ verdict, (∀ result,
        Settings.Verdict run.workspace (Settings.projectPath run.workspace) result
          ↔ result = verdict)
      ∧ Settings.findFile run.workspace = (verdict >>= fun counts =>
        if counts then .ok (some (Settings.projectPath run.workspace))
        else Settings.userFile run.workspace)

/-- **Configuration problems are reported, but for those that are named.**
Whatever the files, the environment and the overrides hold, a run loads its
settings, reports that they are invalid and ends with 1, or meets one of the
causes that `Settings.Escapes` names. The report is kept back only where the
standard output refuses to show it, for a surrogate in its message. A file
that nests too deep or holds a
value of a wrong type where a table should be is one of them, and it is never
reported. A project file is passed over only if it is no configuration, or if
its tools have items and do not mention the table for settings; if it is no
UTF-8, if a number in it is too long, if it nests too deep or if its tools
have no items, it ends the search. -/
theorem problems_accounted (run : Run) (front : Choices) (overrides : Settings.Values) :
    Accounted run front overrides where
  causes fault h := Settings.load_fault h
  reported fault h hinvalid := loadSettings_of_invalid h hinvalid
  misshapen hpath fault h := by
    obtain ⟨hload, hinvalid⟩ := Settings.load_of_misshapen hpath h
    obtain ⟨run', -, hrun⟩ := loadSettings_of_unforeseen hload hinvalid h.ne_words
    exact ⟨hload, hinvalid, run', hrun⟩
  judged hown hproject := by
    obtain ⟨content, hfind⟩ := Workspace.exists_of_isFile? hproject
    have hverdict := Settings.verdict_projectCounts (Workspace.readBytes_of_find hfind)
    refine ⟨_, fun result => ⟨fun h => h.projectCounts_eq.symm, fun h => h ▸ hverdict⟩, ?_⟩
    exact Settings.findFile_of_project hown hproject

/-- A folder with nothing but a project file. -/
def withProject (content : Text) : Workspace :=
  ⟨.folder [("pyproject.toml", .file (content.map fun c => UInt8.ofNat c.val))], [], []⟩

/-- A project file whose tools are a list that mentions the table for
settings. -/
def listedTools : Workspace := withProject "tool = [\"apidocgen\"]\n"

/-- Whether a value is a list of one text. -/
def listsOnly (t : Text) : Toml → Bool
  | .list [.text item] => item == t
  | _ => false

/-- A value that passes the test is a list of that one text. The test is
there to be run, where values of files cannot be compared. -/
theorem eq_of_listsOnly {t : Text} {value : Toml} (h : listsOnly t value = true) :
    value = .list [.text t] := by
  rw [listsOnly.eq_def] at h
  split at h
  · rw [beq_iff_eq.mp h]
  · cases h

/-- A list in the place of the table of tools: the run ends with a fault
that nobody catches, and shows nothing about it. The file is not passed over
although it says nothing about settings. -/
theorem listedTools_unreported :
    Settings.findFile listedTools = .ok (some (Settings.projectPath listedTools))
      ∧ Settings.Misshapen listedTools none (.noMembers "list")
      ∧ Settings.load listedTools none [] = .error (.noMembers "list")
      ∧ ∃ run', (loadSettings .none []).on (Run.start listedTools)
        = (.error (.unexpected "'list' object has no attribute 'get'"), run') := by
  have haccounted := problems_accounted (Run.start listedTools) .none []
  have hown : listedTools.isFile? (Settings.ownPath listedTools) = .ok false := by decide +kernel
  have hproject : listedTools.isFile? (Settings.projectPath listedTools) = .ok true := by
    decide +kernel
  have hread : (Settings.readMembers listedTools (Settings.projectPath listedTools)).toOption.any
      (fun members => listsOnly Settings.tableName (Settings.toolsOf members)) = true := by
    decide +kernel
  obtain ⟨members, hmembers, htools⟩ := Settings.exists_ok_of_any hread
  have hlist : Settings.toolsOf members = .list [.text Settings.tableName] :=
    eq_of_listsOnly htools
  obtain ⟨verdict, hverdict, hjudged⟩ := haccounted.judged hown hproject
  obtain rfl : Except.ok true = verdict := by
    refine (hverdict _).mp (.mentioned hmembers ?_)
    rw [hlist]
    exact .list List.mem_cons_self
  have hfind : Settings.findFile listedTools
      = .ok (some (Settings.projectPath listedTools)) := hjudged
  have hname : (Settings.projectPath listedTools).name = Settings.projectFileName := by
    decide +kernel
  have htable : ∀ tools, Settings.toolsOf members ≠ .table tools := by
    rw [hlist]
    rintro tools ⟨⟩
  have hfile : Settings.fileOf listedTools none
      = .ok (some (Settings.projectPath listedTools)) := hfind
  have hshape : Settings.Misshapen listedTools none (.noMembers "list") := by
    have hfault := Settings.Misshapen.tools hfile hmembers hname htable
    rwa [hlist] at hfault
  have hnames : List.lookup Settings.pathName ([] : Settings.Values) = none := rfl
  obtain ⟨hload, -, hrun⟩ := haccounted.misshapen hnames _ hshape
  exact ⟨hfind, hshape, hload, hrun⟩

/-- A project file whose tools are a number. -/
def scalarTools : Workspace := withProject "tool = 5\n"

/-- A number in the place of the table of tools. It cannot be searched for
the name of this tool, so the run ends before it is known whether the file
counts at all. -/
theorem scalarTools_unreported :
    Settings.findFile scalarTools = .error (.notSearchable "int")
      ∧ Settings.load scalarTools none [] = .error (.notSearchable "int")
      ∧ (Settings.Fault.notSearchable "int").isInvalid = false
      ∧ ∃ run', (loadSettings .none []).on (Run.start scalarTools)
        = (.error (.unexpected "argument of type 'int' is not iterable"), run') := by
  have hown : scalarTools.isFile? (Settings.ownPath scalarTools) = .ok false := by decide +kernel
  have hproject : scalarTools.isFile? (Settings.projectPath scalarTools) = .ok true := by
    decide +kernel
  have hread : (Settings.readMembers scalarTools (Settings.projectPath scalarTools)).toOption.any
      (fun members => Settings.toolsOf members matches .int _) = true := by
    decide +kernel
  obtain ⟨members, hmembers, htools⟩ := Settings.exists_ok_of_any hread
  have hshape : Settings.Misshapen scalarTools none (.notSearchable "int") := by
    cases hint : Settings.toolsOf members with
    | int n =>
        have hfault := Settings.Misshapen.searched hown hproject hmembers (by rw [hint]; rfl)
        rwa [hint] at hfault
    | _ => exact nomatch hint ▸ htools
  have hnames : List.lookup Settings.pathName ([] : Settings.Values) = none := rfl
  obtain ⟨hload, hinvalid⟩ := Settings.load_of_misshapen hnames hshape
  have hstart : Settings.load (Run.start scalarTools).workspace Choices.none.configFile []
      = .error (.notSearchable "int") := hload
  obtain ⟨run', -, hrun⟩ := loadSettings_of_unforeseen hstart hinvalid hshape.ne_words
  exact ⟨by decide +kernel, hload, hinvalid, run', hrun⟩

end DocScribe.CommandLine.Generate
