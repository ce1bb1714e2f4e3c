import DocScribe.Proofs.Generation.Overlap
import DocScribe.Proofs.Generation.Turns

/-!
# `DocScribe.Proofs.Generation.Requests`: how many requests are made

A position of a batch calls the provider when it starts, or not at all.
Not at all if its file cannot be read, if its path says nothing, or if
there is no provider; else once, with the prompt for its file
(`begun_of_readText`). As no more positions are busy than there are
permits, no more requests are under way (`Batch.Measured`).

The provider itself is created once for all calls, whichever of them
creates it and however they overlap (`Overlap.Shared`).
-/

set_option autoImplicit false

namespace DocScribe

open Generation Generator

/-! ### Paths in options -/

/-- The refusal of a path without a visible character. -/
def PromptOptions.blankPath : Rejection :=
  ⟨title, [⟨.refused "File path cannot be empty", [.key Labels.filePath.name]⟩]⟩

/-- Options for a file are refused if its path is blank, and for nothing
else. -/
theorem PromptOptions.forFile_eq (includeExamples : Bool) (filePath : Text) :
    forFile includeExamples filePath
      = if filePath.isBlank then .error blankPath else .ok ⟨includeExamples, filePath⟩ := by
  have hpath : pathOf (.text filePath)
      = if filePath.isBlank then .error (.refused "File path cannot be empty")
        else .ok filePath := by
    cases hblank : filePath.isBlank <;>
      simp only [pathOf, Lax.text, bind, Except.bind, hblank] <;> rfl
  rw [forFile, Checked.required, hpath]
  cases filePath.isBlank <;> rfl

namespace Batch

variable {b : Batch} {g : Generator} {s : State} {moves : List Move} {i : Nat} {path : Path}

/-! ### Whether a file asks -/

/-- A file that cannot be read asks nothing. It has ended when it has begun,
with a failure or a breakdown. -/
theorem exists_begun_of_unread {fault : FileFault}
    (hread : b.workspace.readText path = .error fault) (g : Generator) (i : Nat) :
    ∃ outcome, b.begun g i path = .ended outcome := by
  obtain ⟨log, outcome, hends⟩ := beginFile_of_not_asking b.workspace b.includeExamples path
    fun code options hcode => nomatch hread.symm.trans hcode
  exact ⟨outcome, by rw [begun, hends]⟩

/-- The prompt for a file with some code. -/
def promptFor (b : Batch) (path : Path) (code : Text) : Text :=
  Prompt.build code (Language.ofPath path) ⟨b.includeExamples, path.toText⟩

/-- A file that is read, at a path that says something, asks the provider
if there is one. -/
theorem begun_of_readText {code : Text} {provider : Provider}
    (hread : b.workspace.readText path = .ok code) (hpath : path.toText.isBlank = false)
    (hprovider : (g.provide b.connect).2.2 = .ok provider) :
    b.begun g i path
      = .asked (b.promptFor path code) (provider.send i (b.promptFor path code)) := by
  have hoptions := PromptOptions.forFile_eq b.includeExamples path.toText
  rw [hpath, if_neg (by decide)] at hoptions
  rw [begun, beginFile_of_readText hread hoptions]
  dsimp only
  rw [ask_result, hprovider]
  rfl

/-! ### Calls of the provider in a batch -/

/-- A position has called nobody, or has made the calls with which its
file begins. -/
theorem Sound.callsOf_cases (h : b.Sound g s) (i : Nat) :
    s.callsOf i = []
      ∨ ∃ path, b.paths[i]? = some path ∧ s.callsOf i = (b.begun g i path).calls i := by
  cases hpath : b.paths[i]? with
  | none => exact .inl (h.outside i (List.getElem?_eq_none_iff.mp hpath)).2
  | some path =>
      obtain ⟨phase, hphase⟩ := exists_phase h.length hpath
      have hstands := h.stands i path phase hpath hphase
      cases phase with
      | waiting => exact .inl hstands.2
      | asked answer => exact .inr ⟨path, rfl, hstands.2.2⟩
      | ended outcome => exact .inr ⟨path, rfl, hstands.2.2⟩

/-- What holds of the calls of the provider at any time of a batch: as
many requests are under way as there are permits at most; a position
makes one call at most, none if its file cannot be read, and one, with
the prompt for its file, by the time it has ended, if its file was read
at a path that says something and there is a provider. Where no move is
left all positions have ended. -/
structure Measured (b : Batch) (g : Generator) (s : State) : Prop where
  inFlight : s.inFlight ≤ b.limit
  peak : s.peak ≤ b.limit
  atMostOne : ∀ i, (s.callsOf i).length ≤ 1
  unread : ∀ (i : Nat) (path : Path) (fault : FileFault), b.paths[i]? = some path →
    b.workspace.readText path = .error fault → s.callsOf i = []
  read : ∀ (i : Nat) (path : Path) (code : Text) (provider : Provider) (outcome : Outcome),
    b.paths[i]? = some path → b.workspace.readText path = .ok code →
    path.toText.isBlank = false → (g.provide b.connect).2.2 = .ok provider →
    s.phases[i]? = some (.ended outcome) →
    s.callsOf i
      = [⟨i, b.promptFor path code, (provider.send i (b.promptFor path code)).sent⟩]
  ended : 0 < b.limit → b.Stuck s → ∀ (i : Nat) (path : Path), b.paths[i]? = some path →
    ∃ outcome, s.phases[i]? = some (.ended outcome)

/-- The calls in flight are never more than the permits, in any state that a
batch can reach. -/
theorem Runs.measured (h : b.Runs g moves s) : b.Measured g s where
  inFlight := Nat.le_trans s.inFlight_le_busy h.sound.busy
  peak := h.sound.peak
  atMostOne i := by
    rcases h.sound.callsOf_cases i with hnone | ⟨path, -, hcalls⟩
    · rw [hnone]
      exact Nat.zero_le 1
    · rw [hcalls]
      cases b.begun g i path with
      | asked => exact Nat.le_refl 1
      | ended => exact Nat.zero_le 1
  unread i path fault hpath hread := by
    rcases h.sound.callsOf_cases i with hnone | ⟨path', hpath', hcalls⟩
    · exact hnone
    · obtain rfl := Option.some.inj (hpath.symm.trans hpath')
      obtain ⟨outcome, hbegun⟩ := exists_begun_of_unread hread g i
      rw [hcalls, hbegun, Begun.calls]
  read i path code provider outcome hpath hread hblank hprovider hphase := by
    obtain ⟨-, -, hcalls⟩ := h.sound.stands i path _ hpath hphase
    rw [hcalls, begun_of_readText hread hblank hprovider, Begun.calls]
  ended hlimit hstuck i path hpath := by
    rw [h.phases_of_stuck hlimit hstuck, List.getElem?_mapIdx, hpath]
    exact ⟨_, rfl⟩

end Batch

/-! ### Providers of overlapping calls -/

/-- What holds of calls that share a generator at any time: at most one
provider was created; if one was, the generator has it and every answer
is its answer to the prompt of the call; and a creation that fails
leaves the generator without a provider. -/
structure Overlap.Shared (inquiries : List Inquiry) (o : Overlap) : Prop where
  once : (o.creations.filterMap Except.toOption).length ≤ 1
  kept : ∀ p, .ok p ∈ o.creations → o.generator.provider = some p
  pending : ∀ (i : Nat) (q : Inquiry) (answer : Answer), inquiries[i]? = some q →
    o.phases[i]? = some (.pending answer) →
    ∃ p, .ok p ∈ o.creations ∧ answer = p.send i q.prompt
  done : ∀ (i : Nat) (q : Inquiry) (result : Inquiry.Result), inquiries[i]? = some q →
    o.phases[i]? = some (.done result) →
    (∃ p, .ok p ∈ o.creations ∧ result = (conclude q.options.filePath (p.send i q.prompt)).2)
      ∨ ∃ e, .error e ∈ o.creations
        ∧ result = some (.error ⟨.generating, q.options.filePath, .completion (.backend e)⟩)
  failed : ∀ (move : Overlap.Move) (o' : Overlap) (e : Backend.BackendError),
    o.step inquiries move = some o' → o'.creations = o.creations ++ [.error e] →
    o'.generator.provider = none

namespace Overlap

variable {config : Backend.Config} {inquiries : List Inquiry} {calls : List Move} {o : Overlap}

/-- A provider was created exactly if the generator has it, so no second one
is created. -/
theorem Sole.mem_creations_iff (h : Sole config inquiries o) {p : Provider} :
    .ok p ∈ o.creations ↔ o.generator.provider = some p := by
  have hmem : p ∈ o.creations.filterMap Except.toOption ↔ p ∈ o.generator.provider.toList := by
    rw [h.created]
  rw [Option.mem_toList] at hmem
  rw [← hmem, List.mem_filterMap]
  constructor
  · exact fun hok => ⟨.ok p, hok, rfl⟩
  · rintro ⟨created, hcreated, hok⟩
    cases created with
    | ok p' => exact Option.some.inj hok ▸ hcreated
    | error e => exact nomatch hok

/-- Calls that overlap share the provider: it is created for one of them at
most, whichever comes first. -/
theorem Runs.shared (h : Runs config inquiries calls o) : o.Shared inquiries where
  once := by
    rw [h.sole.created]
    exact Option.length_toList_le
  kept p hp := h.sole.mem_creations_iff.mp hp
  pending i q answer hq hphase := by
    obtain ⟨p, hp, hanswer⟩ := h.sole.answered i q _ hq hphase
    exact ⟨p, h.sole.mem_creations_iff.mpr hp, hanswer⟩
  done i q result hq hphase := by
    refine (h.sole.answered i q _ hq hphase).imp_left ?_
    rintro ⟨p, hp, hresult⟩
    exact ⟨p, h.sole.mem_creations_iff.mpr hp, hresult⟩
  failed move o' e hstep hfailed := h.sole.provider_of_failed hstep hfailed

end Overlap

/-- **Requests and providers.** At any time of a batch, whatever the order
of its moves, requests are `Batch.Measured`: within the permits, at most
one for a position, none for a file that is not read, and one for a file
that is read at a path that says something, if there is a provider. At
any time of calls on one generator, however they overlap, their provider
is `Overlap.Shared`: created at most once, kept for all, and missing
after a creation has failed. -/
theorem requests_measured_and_provider_shared {b : Batch} {g : Generator} {moves : List Batch.Move}
    {s : Batch.State} (hruns : b.Runs g moves s) {config : Backend.Config}
    {inquiries : List Inquiry} {calls : List Overlap.Move} {o : Overlap}
    (hcalls : Overlap.Runs config inquiries calls o) :
    b.Measured g s ∧ o.Shared inquiries :=
  ⟨hruns.measured, hcalls.shared⟩

/-- Settings of the hosted service. -/
def hostedConfig : Backend.Config :=
  ⟨"openai", none, none, none, Backend.Config.defaultTemperature, 4000, none, []⟩

/-- A call about a short source. -/
def shortInquiry : Inquiry :=
  ⟨fun _ => .scripted fun _ => .interrupted, "x", "python", ⟨true, "a.py"⟩⟩

/-- A batch of four files has two calls in flight at most, and two calls
that overlap share the provider that the first of them creates. -/
theorem measured_mixture_and_shared_pair :
    (Batch.mixture.finish 3 Batch.answering).peak ≤ 2
      ∧ ((Batch.mixture.finish 3 Batch.answering).callsOf 0).length ≤ 1
      ∧ ((((Overlap.start hostedConfig [shortInquiry, shortInquiry]).ask 0 shortInquiry).ask 1
        shortInquiry).creations.filterMap Except.toOption).length ≤ 1 := by
  obtain ⟨moves, hruns, -⟩ := Batch.exists_runs_finish (b := .mixture) (by decide) 3 Batch.answering
  have hcalls : Overlap.Runs hostedConfig [shortInquiry, shortInquiry] [.ask 0, .ask 1] _ :=
    .step (.step .start rfl) rfl
  obtain ⟨hmeasured, hshared⟩ := requests_measured_and_provider_shared hruns hcalls
  exact ⟨hmeasured.peak, hmeasured.atMostOne 0, hshared.once⟩

/-- A batch of one file, whose name is a blank. -/
def Batch.blank : Batch :=
  { mixture with
    workspace := ⟨.folder [(" ", .file [0x78])], [], []⟩
    paths := [.ofText " "] }

/-- A file that is read makes no call of a provider that is there, if its
path is blank. -/
theorem no_call_at_blank_path :
    (∃ moves, Batch.blank.Runs Batch.answering moves (Batch.blank.finish 3 Batch.answering))
      ∧ Batch.blank.workspace.readText (.ofText " ") = .ok "x"
      ∧ (Batch.answering.provide Batch.blank.connect).2.2.toBool = true
      ∧ (Batch.blank.finish 3 Batch.answering).phases
        = [.ended (.broken (.options PromptOptions.blankPath))]
      ∧ (Batch.blank.finish 3 Batch.answering).calls.length = 0 := by
  obtain ⟨moves, hruns, -⟩ := Batch.exists_runs_finish (b := .blank) (by decide) 3 Batch.answering
  exact ⟨⟨moves, hruns⟩, rfl, rfl, rfl, rfl⟩

end DocScribe
