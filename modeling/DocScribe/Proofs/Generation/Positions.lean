import DocScribe.Generation.Batch
import DocScribe.Proofs.Generation.Provision

/-!
# `DocScribe.Proofs.Generation.Positions`: what a batch keeps track of

The states of a batch have two sides. On one side every position goes
its way by itself: it waits, it may be asked, it ends, and what it
ends with is what its file comes to when generated alone (`Stands`).
On the other side the positions share a generator, the permits, and a
record of calls and results.

`Sound` ties the sides together. It holds of the start (`sound_start`)
and every move preserves it (`Sound.step`): the position that moves
goes on to its next phase, and of all others the move changes neither
the phase nor what is recorded of them (`Untouched`).
-/

set_option autoImplicit false

namespace DocScribe

open Generation

namespace Generator

/-- The result that a file has ended with. -/
def Outcome.result? : Outcome → Option (Except GenerationError FileDoc)
  | .settled result => some result
  | .broken _ => none

/-- The breakdown that a file has ended in. -/
def Outcome.breakdown? : Outcome → Option Breakdown
  | .settled _ => none
  | .broken breakdown => some breakdown

/-- The phase in which a start leaves a position. -/
def Begun.phase : Begun → Batch.Phase
  | .asked _ answer => .asked answer
  | .ended outcome => .ended outcome

/-- The calls of the provider that the start of a position makes. -/
def Begun.calls (i : Nat) : Begun → List Batch.Call
  | .asked prompt answer => [⟨i, prompt, answer.sent⟩]
  | .ended _ => []

end Generator

namespace Batch

open Generator

/-- How the file at a path begins if it stands at a position. -/
def begun (b : Batch) (g : Generator) (i : Nat) (path : Path) : Begun :=
  (g.beginFile b.connect b.workspace b.includeExamples i path).2.2

/-- What the file at a path comes to if it stands at a position, generated
alone. -/
def outcome (b : Batch) (g : Generator) (i : Nat) (path : Path) : Outcome :=
  (g.generateFile b.connect b.workspace b.includeExamples i path).2.2

/-- A file begins in the same way whatever was generated before it. -/
theorem begun_of_follows {b : Batch} {g g' : Generator} (h : Follows b.connect g g')
    (i : Nat) (path : Path) : b.begun g' i path = b.begun g i path :=
  (h.beginFile b.workspace b.includeExamples i path).2

/-- What a file comes to when generated alone: its beginning, with the
answer to what was asked. -/
theorem outcome_eq (b : Batch) (g : Generator) (i : Nat) (path : Path) :
    b.outcome g i path = (b.begun g i path).outcome path :=
  (generateFile_eq b.connect b.workspace b.includeExamples g i path).2

/-! ### What is recorded of a position -/

/-- The results that were reported for a position. -/
def reportedOf (reports : List (Nat × Except GenerationError FileDoc)) (i : Nat) :
    List (Except GenerationError FileDoc) :=
  (reports.filter fun entry => entry.1 == i).map Prod.snd

/-- The calls that a position has made. -/
def State.callsOf (s : State) (i : Nat) : List Call :=
  s.calls.filter fun call => call.position == i

/-- Results are recorded in order, so those of a position are found in both
parts of a record. -/
theorem reportedOf_append (reports more : List (Nat × Except GenerationError FileDoc)) (i : Nat) :
    reportedOf (reports ++ more) i = reportedOf reports i ++ reportedOf more i := by
  simp only [reportedOf, List.filter_append, List.map_append]

/-- The breakdown that a position has ended in. -/
def Phase.breakdown? : Phase → Option Breakdown
  | .ended outcome => outcome.breakdown?
  | _ => none

/-- Whether a position has not started. -/
def Phase.isWaiting : Phase → Bool
  | .waiting => true
  | _ => false

/-- How many positions have not started. -/
def State.waiting (s : State) : Nat :=
  s.phases.countP Phase.isWaiting

/-- A request that is under way is that of a busy position. So the permits,
which bound the busy positions, bound the requests. -/
theorem State.inFlight_le_busy (s : State) : s.inFlight ≤ s.busy := by
  refine List.countP_mono_left fun phase _ h => ?_
  cases phase with
  | asked => rfl
  | waiting => exact h
  | ended => exact h

/-! ### Settling and sending -/

section Settle

variable (s : State) (i : Nat) (outcome : Outcome)

/-- To settle a position ends it with its outcome. -/
@[simp] theorem settle_phases : (s.settle i outcome).phases = s.phases.set i (.ended outcome) := by
  cases outcome <;> rfl

/-- To settle a position leaves the generator alone. -/
@[simp] theorem settle_generator : (s.settle i outcome).generator = s.generator := by
  cases outcome <;> rfl

/-- To settle a position makes no call. -/
@[simp] theorem settle_calls : (s.settle i outcome).calls = s.calls := by
  cases outcome <;> rfl

/-- To settle a position sends nothing, so the largest number of calls in
flight stays. -/
@[simp] theorem settle_peak : (s.settle i outcome).peak = s.peak := by
  cases outcome <;> rfl

/-- A result is recorded behind the others; a breakdown is none. -/
@[simp] theorem settle_reports :
    (s.settle i outcome).reports
      = s.reports ++ (outcome.result?.map fun result => (i, result)).toList := by
  cases outcome <;> simp [State.settle, Outcome.result?]

/-- The first breakdown stays. -/
@[simp] theorem settle_breakdown :
    (s.settle i outcome).breakdown = s.breakdown.or outcome.breakdown? := by
  cases outcome <;> simp [State.settle, Outcome.breakdown?]

end Settle

/-- What the start of a position leads to: the generator, the calls, and the
phase, as the beginning of its file has them. -/
theorem begin_eq (b : Batch) (s : State) (i : Nat) (path : Path) :
    let started := s.generator.beginFile b.connect b.workspace b.includeExamples i path
    let left := { s with generator := started.1, log := s.log ++ started.2.1 }
    b.begin s i path
      = match started.2.2 with
        | .asked prompt answer => left.send i prompt answer
        | .ended outcome => left.settle i outcome := by
  dsimp only
  rw [begin]
  split <;> simp_all

section Begin

variable (b : Batch) (s : State) (i : Nat) (path : Path)

/-- A position that begins goes on to the phase that its file begins in. -/
theorem begin_phases :
    (b.begin s i path).phases = s.phases.set i (b.begun s.generator i path).phase := by
  rw [begin_eq, begun]
  split <;> simp_all [State.send, Begun.phase]

/-- The generator may have looked for its provider. Nothing else of it
changes when a file begins. -/
theorem begin_generator :
    (b.begin s i path).generator
      = (s.generator.beginFile b.connect b.workspace b.includeExamples i path).1 := by
  rw [begin_eq]
  split <;> simp [State.send]

/-- A file may break down as soon as it begins. Of several breakdowns the
first one stays. -/
theorem begin_breakdown :
    (b.begin s i path).breakdown
      = s.breakdown.or (b.begun s.generator i path).phase.breakdown? := by
  rw [begin_eq, begun]
  split <;> simp_all [State.send, Begun.phase, Phase.breakdown?]

/-- Beginning raises the peak at most to the calls that are in flight
now. -/
theorem begin_peak_le :
    (b.begin s i path).peak ≤ max s.peak (b.begin s i path).inFlight := by
  rw [begin_eq]
  split
  · exact Nat.le_refl _
  · rw [settle_peak]
    exact Nat.le_max_left _ _

end Begin

section Conclude

variable (s : State) (i : Nat) (path : Path) (answer : Answer)

/-- A position that is answered ends with what its file comes to with the
answer. -/
theorem conclude_phases :
    (conclude s i path answer).phases
      = s.phases.set i (.ended (concludeFile path answer).2) :=
  settle_phases _ i _

/-- The provider was found before, so the generator stays as it is. -/
theorem conclude_generator : (conclude s i path answer).generator = s.generator :=
  settle_generator _ i _

/-- A file may break down over its answer as well. -/
theorem conclude_breakdown :
    (conclude s i path answer).breakdown
      = s.breakdown.or (concludeFile path answer).2.breakdown? :=
  settle_breakdown _ i _

/-- A call that ends puts no more calls in flight. -/
theorem conclude_peak : (conclude s i path answer).peak = s.peak :=
  settle_peak _ i _

end Conclude

/-! ### Moves -/

/-- A start is possible for a position that waits, as long as there is
a permit. -/
theorem step_start_eq_some_iff {b : Batch} {s s' : State} {i : Nat} :
    b.step s (.start i) = some s' ↔ ∃ path, b.paths[i]? = some path
      ∧ s.phases[i]? = some .waiting ∧ s.busy < b.limit ∧ s' = b.begin s i path := by
  rw [step]
  constructor
  · intro h
    split at h
    · next path hpath hphase =>
      split at h
      · next hbusy => exact ⟨path, hpath, hphase, hbusy, (Option.some.inj h).symm⟩
      · exact nomatch h
    · exact nomatch h
  · rintro ⟨path, hpath, hphase, hbusy, rfl⟩
    rw [hpath, hphase]
    simp only [hbusy, if_true]

/-- A reply is possible for a position that was asked, and for no other, and
it concludes the position. -/
theorem step_reply_eq_some_iff {b : Batch} {s s' : State} {i : Nat} :
    b.step s (.reply i) = some s' ↔ ∃ path answer, b.paths[i]? = some path
      ∧ s.phases[i]? = some (.asked answer) ∧ s' = conclude s i path answer := by
  rw [step]
  constructor
  · intro h
    split at h
    · next path answer hpath hphase => exact ⟨path, answer, hpath, hphase, (Option.some.inj h).symm⟩
    · exact nomatch h
  · rintro ⟨path, answer, hpath, hphase, rfl⟩
    rw [hpath, hphase]

/-- Whatever has a phase is a file of the batch, since there are as many
phases as files. -/
theorem exists_path {b : Batch} {s : State} {i : Nat} {phase : Phase}
    (hlength : s.phases.length = b.paths.length) (hphase : s.phases[i]? = some phase) :
    ∃ path, b.paths[i]? = some path := by
  obtain ⟨hi, -⟩ := List.getElem?_eq_some_iff.mp hphase
  exact ⟨_, List.getElem?_eq_getElem (hlength ▸ hi)⟩

/-- Every file of the batch has a phase, for the same reason. -/
theorem exists_phase {b : Batch} {s : State} {i : Nat} {path : Path}
    (hlength : s.phases.length = b.paths.length) (hpath : b.paths[i]? = some path) :
    ∃ phase, s.phases[i]? = some phase := by
  obtain ⟨hi, -⟩ := List.getElem?_eq_some_iff.mp hpath
  exact ⟨_, List.getElem?_eq_getElem (hlength ▸ hi)⟩

/-- What a move has left alone of a position. -/
structure Untouched (s s' : State) (j : Nat) : Prop where
  phase : s'.phases[j]? = s.phases[j]?
  reported : reportedOf s'.reports j = reportedOf s.reports j
  calls : s'.callsOf j = s.callsOf j

/-- Settling a position touches no other: neither its phase nor what was
recorded for it. -/
theorem untouched_settle (s : State) {i j : Nat} (hij : i ≠ j) (outcome : Outcome) :
    Untouched s (s.settle i outcome) j where
  phase := by rw [settle_phases, List.getElem?_set_ne hij]
  reported := by
    rw [settle_reports, reportedOf_append]
    cases outcome <;> simp [Outcome.result?, reportedOf, hij]
  calls := by rw [State.callsOf, settle_calls, State.callsOf]

/-- Sending for a position touches no other. What is recorded is the request
of this one. -/
theorem untouched_send (s : State) {i j : Nat} (hij : i ≠ j) (prompt : Text) (answer : Answer) :
    Untouched s (s.send i prompt answer) j where
  phase := by rw [State.send, List.getElem?_set_ne hij]
  reported := rfl
  calls := by simp [State.send, State.callsOf, hij]

/-- Starting a position touches no other: calls and results are recorded
with their positions. -/
theorem untouched_begin (b : Batch) (s : State) {i j : Nat} (hij : i ≠ j) (path : Path) :
    Untouched s (b.begin s i path) j := by
  rw [begin_eq]
  -- The new generator and the new log are recorded of no position.
  split
  · exact ⟨(untouched_send _ hij _ _).phase, rfl, (untouched_send _ hij _ _).calls⟩
  · exact ⟨(untouched_settle _ hij _).phase, (untouched_settle _ hij _).reported,
      (untouched_settle _ hij _).calls⟩

/-- Concluding a position touches no other. -/
theorem untouched_conclude (s : State) {i j : Nat} (hij : i ≠ j) (path : Path) (answer : Answer) :
    Untouched s (conclude s i path answer) j :=
  ⟨(untouched_settle _ hij _).phase, (untouched_settle _ hij _).reported,
    (untouched_settle _ hij _).calls⟩

/-! ### The way of one position -/

/-- What is recorded of a position in a phase: nothing while it waits;
the calls of its start once it was asked; and the result of its file,
once, when it has ended with one. -/
def Stands (b : Batch) (g : Generator) (s : State) (i : Nat) (path : Path) : Phase → Prop
  | .waiting => reportedOf s.reports i = [] ∧ s.callsOf i = []
  | .asked answer =>
    (b.begun g i path).phase = .asked answer ∧ reportedOf s.reports i = []
      ∧ s.callsOf i = (b.begun g i path).calls i
  | .ended outcome =>
    outcome = b.outcome g i path ∧ reportedOf s.reports i = outcome.result?.toList
      ∧ s.callsOf i = (b.begun g i path).calls i

variable {b : Batch} {g : Generator} {s s' : State} {i : Nat} {path : Path} {phase : Phase}

/-- A position stands where it stood as long as nothing that is recorded of
it has changed. -/
theorem Stands.of_untouched (h : b.Stands g s i path phase) (hsame : Untouched s s' i) :
    b.Stands g s' i path phase := by
  cases phase <;> simpa only [Stands, hsame.reported, hsame.calls] using h

/-- A waiting position that is started goes on to where its file
begins. -/
theorem Stands.begin (h : b.Stands g s i path .waiting)
    (hfollows : Follows b.connect g s.generator) :
    b.Stands g (b.begin s i path) i path (b.begun g i path).phase := by
  obtain ⟨hreported, hcalls⟩ := h
  have hbegun : (s.generator.beginFile b.connect b.workspace b.includeExamples i path).2.2
      = b.begun g i path := begun_of_follows hfollows i path
  rw [begin_eq, hbegun]
  cases hcase : b.begun g i path with
  | asked prompt answer =>
      refine ⟨congrArg Begun.phase hcase, hreported, ?_⟩
      rw [State.callsOf] at hcalls
      simp [State.callsOf, State.send, Begun.calls, hcase, hcalls]
  | ended outcome =>
      -- A file that asks nobody has come to its outcome at once.
      have houtcome : outcome = b.outcome g i path := by rw [outcome_eq, hcase, Begun.outcome]
      refine ⟨houtcome, ?_, ?_⟩
      · rw [settle_reports, reportedOf_append, hreported]
        cases outcome <;> simp [Outcome.result?, reportedOf]
      · rw [State.callsOf, settle_calls, hcase]
        exact hcalls

/-- The answer that a position waits for is the one with which its file
began, so it brings what its file comes to. -/
theorem Stands.outcome_eq {answer : Answer} (h : b.Stands g s i path (.asked answer)) :
    (concludeFile path answer).2 = b.outcome g i path := by
  have hbegun := h.1
  rw [Batch.outcome_eq]
  cases hcase : b.begun g i path with
  | asked prompt answer' =>
      rw [hcase, Begun.phase, Phase.asked.injEq] at hbegun
      rw [Begun.outcome, hbegun]
  | ended outcome =>
      rw [hcase] at hbegun
      cases hbegun

/-- A position that was asked ends with what its file comes to, which is
recorded once. -/
theorem Stands.conclude {answer : Answer} (h : b.Stands g s i path (.asked answer)) :
    b.Stands g (conclude s i path answer) i path (.ended (concludeFile path answer).2) := by
  have houtcome := h.outcome_eq
  obtain ⟨-, hreported, hcalls⟩ := h
  refine ⟨houtcome, ?_, ?_⟩
  · rw [Batch.conclude, settle_reports, reportedOf_append, hreported]
    cases (concludeFile path answer).2 <;> simp [Outcome.result?, reportedOf]
  · rw [State.callsOf, Batch.conclude, settle_calls]
    exact hcalls

/-! ### All positions together -/

/-- A list with one item replaced, counted: the old one counts no longer and
the new one does. Waiting and busy positions are counted in this way. -/
theorem countP_set_of_getElem? {α : Type} {items : List α} {i : Nat} {old : α}
    (h : items[i]? = some old) (new : α) (p : α → Bool) :
    (items.set i new).countP p + (if p old then 1 else 0)
      = items.countP p + if p new then 1 else 0 := by
  obtain ⟨hi, hget⟩ := List.getElem?_eq_some_iff.mp h
  have hpos : p old = true → 0 < items.countP p := fun hold =>
    List.countP_pos_iff.mpr ⟨old, hget ▸ List.getElem_mem hi, hold⟩
  rw [List.countP_set hi, hget]
  split
  · have := hpos (by assumption)
    omega
  · omega

/-- A start uses up one waiting position; if it asks, one more is
busy. -/
theorem counts_begin (hphase : s.phases[i]? = some .waiting) (path : Path) :
    (b.begin s i path).waiting + 1 = s.waiting
      ∧ (b.begin s i path).busy
        = s.busy + if (b.begun s.generator i path).phase.isBusy then 1 else 0 := by
  have hwaiting := countP_set_of_getElem? hphase (b.begun s.generator i path).phase Phase.isWaiting
  have hbusy := countP_set_of_getElem? hphase (b.begun s.generator i path).phase Phase.isBusy
  have hnot : (b.begun s.generator i path).phase.isWaiting = false := by
    cases b.begun s.generator i path <;> rfl
  rw [State.waiting, State.busy, begin_phases]
  rw [if_pos (show Phase.isWaiting .waiting = true from rfl), hnot] at hwaiting
  exact ⟨hwaiting, hbusy⟩

/-- A reply frees one busy position and leaves as many waiting. The phase of
that position was busy and is now ended, and the others are not touched; so
both numbers can be counted where the phase is set. -/
theorem counts_conclude {answer : Answer} (hphase : s.phases[i]? = some (.asked answer))
    (path : Path) :
    (conclude s i path answer).waiting = s.waiting
      ∧ (conclude s i path answer).busy + 1 = s.busy := by
  have hwaiting := countP_set_of_getElem? hphase (.ended (concludeFile path answer).2)
    Phase.isWaiting
  have hbusy := countP_set_of_getElem? hphase (.ended (concludeFile path answer).2) Phase.isBusy
  rw [State.waiting, State.busy, conclude_phases]
  simp only [Phase.isWaiting, Bool.false_eq_true, if_false, Nat.add_zero] at hwaiting
  simp only [Phase.isBusy, if_true, Bool.false_eq_true, if_false, Nat.add_zero] at hbusy
  exact ⟨hwaiting, hbusy⟩

/-- What holds of a batch at any time: the generator has at most looked
for its provider, every position stands where its phase says, nothing
is recorded of other positions, no more permits are in use than there
are, and a breakdown is one of a position. -/
structure Sound (b : Batch) (g : Generator) (s : State) : Prop where
  generator : Follows b.connect g s.generator
  length : s.phases.length = b.paths.length
  stands : ∀ i path phase, b.paths[i]? = some path → s.phases[i]? = some phase →
    b.Stands g s i path phase
  outside : ∀ i, b.paths.length ≤ i → reportedOf s.reports i = [] ∧ s.callsOf i = []
  busy : s.busy ≤ b.limit
  peak : s.peak ≤ b.limit
  breakdown : s.breakdown = none ↔
    ∀ (i : Nat) (phase : Phase), s.phases[i]? = some phase → phase.breakdown? = none

/-- At the start everybody waits. -/
theorem phase_start (b : Batch) (g : Generator) (hphase : (b.start g).phases[i]? = some phase) :
    phase = .waiting := by
  obtain ⟨path, -, heq⟩ := List.mem_map.mp (List.mem_of_getElem? hphase)
  exact heq.symm

/-- At the start nobody is busy. -/
theorem busy_start (b : Batch) (g : Generator) : (b.start g).busy = 0 := by
  rw [State.busy, start, List.countP_map]
  exact List.countP_eq_zero.mpr fun path _ => by simp [Phase.isBusy]

/-- In the beginning all positions wait, and nothing is recorded. This is
where the induction over the steps of a batch begins. -/
theorem sound_start (b : Batch) (g : Generator) : b.Sound g (b.start g) where
  generator := .refl b.connect g
  length := List.length_map ..
  stands i path phase hpath hphase := by
    rw [phase_start b g hphase]
    exact ⟨rfl, rfl⟩
  outside i _ := ⟨rfl, rfl⟩
  busy := by
    have hnone := busy_start b g
    omega
  peak := Nat.zero_le _
  breakdown := by
    refine iff_of_true rfl fun i phase hphase => ?_
    rw [phase_start b g hphase]
    rfl

/-- A move that takes one position to a phase in which it stands, and
touches no other, leaves all sound. -/
theorem Sound.of_move (h : b.Sound g s) {old : Phase} (new : Phase)
    (hpath : b.paths[i]? = some path)
    (hold : s.phases[i]? = some old) (hongoing : old.breakdown? = none)
    (hphases : s'.phases = s.phases.set i new) (hstands : b.Stands g s' i path new)
    (hothers : ∀ j, i ≠ j → Untouched s s' j) (hgenerator : Follows b.connect g s'.generator)
    (hbusy : s'.busy ≤ b.limit) (hpeak : s'.peak ≤ b.limit)
    (hbreakdown : s'.breakdown = s.breakdown.or new.breakdown?) : b.Sound g s' := by
  obtain ⟨hi, -⟩ := List.getElem?_eq_some_iff.mp hold
  have hnew : s'.phases[i]? = some new := by rw [hphases, List.getElem?_set_self hi]
  refine ⟨hgenerator, by rw [hphases, List.length_set, h.length], ?_, ?_, hbusy, hpeak, ?_⟩
  · -- Position `i` stands as it should by assumption, and every other one as before.
    intro j path' phase hpath' hphase
    by_cases hij : i = j
    · subst hij
      obtain rfl := Option.some.inj (hpath.symm.trans hpath')
      obtain rfl := Option.some.inj (hnew.symm.trans hphase)
      exact hstands
    · have hsame := hothers j hij
      exact (h.stands j path' phase hpath' (hsame.phase ▸ hphase)).of_untouched hsame
  · intro j hj
    have hij : i ≠ j := by
      have := h.length
      omega
    rw [(hothers j hij).reported, (hothers j hij).calls]
    exact h.outside j hj
  · -- The old phase had not broken down, so the batch has if the new one or another has.
    rw [hbreakdown, Option.or_eq_none_iff, h.breakdown]
    constructor
    · rintro ⟨hall, hnone⟩ j phase hphase
      by_cases hij : i = j
      · subst hij
        exact Option.some.inj (hnew.symm.trans hphase) ▸ hnone
      · exact hall j phase ((hothers j hij).phase ▸ hphase)
    · intro hall
      refine ⟨fun j phase hphase => ?_, hall i new hnew⟩
      by_cases hij : i = j
      · subst hij
        exact Option.some.inj (hold.symm.trans hphase) ▸ hongoing
      · exact hall j phase ((hothers j hij).phase.symm ▸ hphase)

/-- Starting a waiting position under a free permit leaves all
sound. -/
theorem Sound.begin (h : b.Sound g s) (hpath : b.paths[i]? = some path)
    (hphase : s.phases[i]? = some .waiting) (hfree : s.busy < b.limit) :
    b.Sound g (b.begin s i path) := by
  have hbegun := begun_of_follows h.generator i path
  have hbusy : (b.begin s i path).busy ≤ b.limit := by
    rw [(counts_begin hphase path).2]
    split <;> omega
  refine h.of_move (b.begun g i path).phase hpath hphase rfl ?_ ?_ ?_ ?_ hbusy ?_ ?_
  · rw [begin_phases, hbegun]
  · exact (h.stands i path .waiting hpath hphase).begin h.generator
  · exact fun j hij => untouched_begin b s hij path
  · rw [begin_generator]
    exact (h.generator.beginFile b.workspace b.includeExamples i path).1
  · have hpeak := begin_peak_le b s i path
    have hflight := State.inFlight_le_busy (b.begin s i path)
    have := h.peak
    omega
  · rw [begin_breakdown, hbegun]

/-- Concluding a position that was asked leaves all sound: it frees a
permit, and ends the position with the outcome of its file. -/
theorem Sound.conclude (h : b.Sound g s) {answer : Answer} (hpath : b.paths[i]? = some path)
    (hphase : s.phases[i]? = some (.asked answer)) : b.Sound g (conclude s i path answer) := by
  refine h.of_move (.ended (concludeFile path answer).2) hpath hphase rfl
    (conclude_phases s i path answer) (h.stands i path _ hpath hphase).conclude
    (fun j hij => untouched_conclude s hij path answer) ?_ ?_ ?_
    (conclude_breakdown s i path answer)
  · rw [conclude_generator]
    exact h.generator
  · have := (counts_conclude hphase path).2
    have := h.busy
    omega
  · rw [conclude_peak]
    exact h.peak

/-- Every move preserves what holds of a batch. A start and a reply are all
the moves there are. -/
theorem Sound.step (h : b.Sound g s) {move : Move} (hstep : b.step s move = some s') :
    b.Sound g s' := by
  cases move with
  | start i =>
      obtain ⟨path, hpath, hphase, hfree, rfl⟩ := step_start_eq_some_iff.mp hstep
      exact h.begin hpath hphase hfree
  | reply i =>
      obtain ⟨path, answer, hpath, hphase, rfl⟩ := step_reply_eq_some_iff.mp hstep
      exact h.conclude hpath hphase

end Batch

end DocScribe
