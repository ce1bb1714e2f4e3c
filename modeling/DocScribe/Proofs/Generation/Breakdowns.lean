import DocScribe.Proofs.Generation.Requests
import DocScribe.Proofs.Workspace.Reading

/-!
# `DocScribe.Proofs.Generation.Breakdowns`: the files that end a batch

A file that is missing, unreadable or no text is a failure of its own,
and so is whatever keeps its documentation from being generated. Three
kinds of paths are no failure but a breakdown, and a breakdown takes the
report away from all other files:

* a text with a null character and
* a text that cannot be spelled in bytes, both of which are no paths to
  anything (`Workspace.pathFault?`);
* a path without a visible character under which a file can be read,
  since the options for the request refuse it only then.

`endsBatch` names these paths, and `reports_iff_no_path_ends_batch` says that
a batch returns a report exactly if none of its paths is one of them.
-/

set_option autoImplicit false

namespace DocScribe

open Generation Generator

/-- An answer that was not interrupted brings a result. -/
theorem Generator.exists_concludeFile {answer : Answer} (h : answer.reply.isSome = true)
    (path : Path) : ∃ result, (concludeFile path answer).2 = .settled result := by
  obtain ⟨reply, hreply⟩ := Option.isSome_iff_exists.mp h
  cases reply <;> simp [concludeFile, conclude, hreply]

/-! ### Paths that end a batch -/

/-- Whether a path ends a batch: it is no path to anything, or it is
blank and a file can be read there. -/
def Workspace.endsBatch (ws : Workspace) (path : Path) : Bool :=
  (pathFault? path.toText).isSome || (path.toText.isBlank && (ws.readText path).toBool)

namespace Batch

variable {b : Batch} {g : Generator} {i : Nat} {path : Path}

/-- What a file comes to that cannot be read: a result, if the fault is one
of the file system or of the decoder, and otherwise a breakdown. -/
theorem outcome_of_unread {fault : FileFault} (hread : b.workspace.readText path = .error fault) :
    (b.outcome g i path).breakdown? = none
      ↔ fault.isRefusal = true ∨ ∃ e, fault = .unreadable e := by
  rw [outcome_eq, begun, beginFile, hread]
  cases fault <;> simp [Begun.outcome, Outcome.breakdown?, FileFault.isRefusal]

/-- What a file comes to whose options are refused. It can be read, but its
path is blank, and the check of that is not caught. -/
theorem outcome_of_blank {code : Text} (hread : b.workspace.readText path = .ok code)
    (hblank : path.toText.isBlank = true) :
    b.outcome g i path = .broken (.options PromptOptions.blankPath) := by
  have hoptions := PromptOptions.forFile_eq b.includeExamples path.toText
  rw [if_pos hblank] at hoptions
  rw [outcome_eq, begun, beginFile, hread]
  simp only [hoptions, Begun.outcome]

/-- Whatever provider a generator finds, its requests are not
interrupted: each brings a reply or a cause of failure. -/
def Replies (connect : Connect) (g : Generator) : Prop :=
  ∀ provider, (g.provide connect).2.2 = .ok provider →
    ∀ i prompt, (provider.send i prompt).reply.isSome = true

/-- What a file comes to that asks is a result: a provider that replies with
text or an error leaves nothing that was not foreseen. -/
theorem outcome_of_asking {code : Text} (hreplies : Replies b.connect g)
    (hread : b.workspace.readText path = .ok code) (hpath : path.toText.isBlank = false) :
    ∃ result, b.outcome g i path = .settled result := by
  cases hprovide : (g.provide b.connect).2.2 with
  | ok provider =>
      have hsome := hreplies provider hprovide i (b.promptFor path code)
      rw [outcome_eq, begun_of_readText hread hpath hprovide, Begun.outcome]
      exact exists_concludeFile hsome path
  | error cause =>
      have hoptions := PromptOptions.forFile_eq b.includeExamples path.toText
      rw [hpath, if_neg (by decide)] at hoptions
      rw [outcome_eq, begun, beginFile_of_readText hread hoptions]
      simp only [ask_result, hprovide, Begun.outcome]
      exact ⟨_, rfl⟩

/-- A file breaks down exactly if its path is one that ends a batch. What
cannot be read breaks down by the text of its path alone; what can be read
does so if the path is blank, since the options for the request refuse it
then. -/
theorem breakdown_outcome_iff (hreplies : Replies b.connect g) (i : Nat) (path : Path) :
    (b.outcome g i path).breakdown? = none ↔ b.workspace.endsBatch path = false := by
  rw [Workspace.endsBatch, Bool.or_eq_false_iff]
  cases hread : b.workspace.readText path with
  | error fault =>
      -- Blank or not, the path matters only as one that can be read.
      rw [outcome_of_unread hread, Except.toBool, Bool.and_false, eq_self, and_true]
      cases hpath : Workspace.pathFault? path.toText with
      | none => exact iff_of_true (Workspace.readText_fault hpath hread) rfl
      | some fault' =>
          obtain rfl : fault' = fault :=
            Except.error.inj ((Workspace.readText_of_pathFault hpath).symm.trans hread)
          refine iff_of_false ?_ Bool.noConfusion
          rcases Workspace.pathFault_cases hpath with rfl | ⟨e, rfl⟩ <;>
            simp [FileFault.isRefusal]
  | ok code =>
      have hpath : Workspace.pathFault? path.toText = none := by
        cases hfault : Workspace.pathFault? path.toText with
        | none => rfl
        | some fault => exact nomatch (Workspace.readText_of_pathFault hfault).symm.trans hread
      rw [hpath, Except.toBool, Bool.and_true]
      cases hblank : path.toText.isBlank with
      | true =>
          rw [outcome_of_blank hread hblank]
          exact iff_of_false (Option.some_ne_none _) fun h => nomatch h.2
      | false =>
          obtain ⟨result, hresult⟩ := outcome_of_asking hreplies hread hblank
          rw [hresult]
          exact iff_of_true rfl ⟨rfl, rfl⟩

/-- **When a report is returned.** With a provider whose requests are not
interrupted and a positive limit,

* generating a file, at whatever position, comes to documentation or an
  error of that file unless the path ends a batch,
* taking turns returns a report exactly if no path of the batch ends
  it, and
* whatever the order of the moves, when no move is left there was a
  breakdown exactly if a path ends the batch. -/
theorem reports_iff_no_path_ends_batch (b : Batch) (g : Generator) (hlimit : 0 < b.limit)
    (hreplies : Replies b.connect g) :
    (∀ i path, (∃ result, b.outcome g i path = .settled result)
        ↔ b.workspace.endsBatch path = false)
      ∧ (∀ patience, (∃ report, (b.run patience g).report = .ok report)
        ↔ ∀ path ∈ b.paths, b.workspace.endsBatch path = false)
      ∧ ∀ moves s, b.Runs g moves s → b.Stuck s →
        (s.breakdown = none ↔ ∀ path ∈ b.paths, b.workspace.endsBatch path = false) := by
  have hstuck : ∀ moves s, b.Runs g moves s → b.Stuck s →
      (s.breakdown = none ↔ ∀ path ∈ b.paths, b.workspace.endsBatch path = false) := by
    intro moves s hruns hstuck
    rw [hruns.breakdown_iff_of_stuck hlimit hstuck]
    constructor
    · intro hnone path hpath
      obtain ⟨i, hpath⟩ := List.mem_iff_getElem?.mp hpath
      exact (breakdown_outcome_iff hreplies i path).mp (hnone i path hpath)
    · intro hnone i path hpath
      exact (breakdown_outcome_iff hreplies i path).mpr (hnone path (List.mem_of_getElem? hpath))
  refine ⟨fun i path => ?_, fun patience => ?_, hstuck⟩
  · rw [← breakdown_outcome_iff hreplies i path]
    cases b.outcome g i path with
    | settled result => exact iff_of_true ⟨result, rfl⟩ rfl
    | broken breakdown => exact iff_of_false (fun ⟨_, h⟩ => nomatch h) (Option.some_ne_none _)
  · obtain ⟨moves, hruns, hends⟩ := exists_runs_finish hlimit patience g
    obtain ⟨-, hreport⟩ := run_eq (b := b) hlimit patience g
    rw [hreport]
    cases hbreakdown : (b.finish patience g).breakdown with
    | none =>
        exact iff_of_true ⟨_, rfl⟩ ((hstuck moves _ hruns (hends hbreakdown)).mp hbreakdown)
    | some breakdown =>
        refine iff_of_false (fun ⟨_, h⟩ => nomatch h) fun hnone => ?_
        have hsound := hruns.sound.breakdown_of_outcomes fun i path hpath =>
          (breakdown_outcome_iff hreplies i path).mpr (hnone path (List.mem_of_getElem? hpath))
        exact nomatch hbreakdown.symm.trans hsound

/-- A file that is missing and one that is no text do not keep the batch
from its report. -/
theorem report_of_mixture : ∃ report, (mixture.run 3 answering).report = .ok report := by
  refine ((reports_iff_no_path_ends_batch mixture answering (by decide) ?_).2.1 3).mpr (by decide)
  rintro _ ⟨⟩ i prompt
  rfl

/-- One at a time: a file, and one whose name is a blank. -/
def blankNamed : Batch :=
  { mixture with
    workspace := ⟨.folder [("a.py", .file [0x78]), (" ", .file [0x78])], [], []⟩
    limit := 1
    paths := [.ofText "a.py", .ofText " "] }

/-- The second file takes the report away from the first, for which
there was documentation already. -/
theorem no_report_of_blankNamed :
    (blankNamed.run 3 answering).report = .error (.options PromptOptions.blankPath)
      ∧ (blankNamed.run 3 answering).reports
        = [(0, .ok ⟨[], [], [], [], [], [], some "a.py", some "a.py"⟩)] :=
  ⟨rfl, rfl⟩

end Batch

end DocScribe
