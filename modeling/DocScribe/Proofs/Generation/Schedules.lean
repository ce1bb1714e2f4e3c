import DocScribe.Proofs.Generation.Positions

/-!
# `DocScribe.Proofs.Generation.Schedules`: the orders in which a batch can go

A run of a batch is any sequence of possible moves from its start
(`Runs`). Every move uses up something: a start a position that waits,
a reply one that was asked. So no run is longer than twice the list of
files (`Runs.length_le`). Where no move is left, every position has
ended (`Runs.phases_of_stuck`): one that was asked could hear its
reply, and one that waits could start, as without anybody asked there
is a permit.

`oneByOne` is the order in which each file is generated when the one
before it is done. Every run that cannot go on has come to what it
comes to (`Runs.tells`).
-/

set_option autoImplicit false

namespace DocScribe.Batch

open Generation Generator

/-- A sequence of possible moves from the start of a batch, and the
state that it leads to. -/
inductive Runs (b : Batch) (g : Generator) : List Move → State → Prop where
  | start : Runs b g [] (b.start g)
  | step {moves : List Move} {move : Move} {s s' : State} :
      Runs b g moves s → b.step s move = some s' → Runs b g (moves ++ [move]) s'

/-- No move is possible. -/
def Stuck (b : Batch) (s : State) : Prop :=
  ∀ move, b.step s move = none

variable {b : Batch} {g : Generator} {s s' : State} {moves : List Move}

/-- Every state that a batch can reach is sound, by induction on the moves
that lead to it. -/
theorem Runs.sound (h : b.Runs g moves s) : b.Sound g s := by
  induction h with
  | start => exact sound_start b g
  | step _ hstep ih => exact ih.step hstep

/-! ### Every run ends -/

/-- How many moves can be ahead: two for a position that waits, one for
a position that was asked. -/
def State.ahead (s : State) : Nat :=
  2 * s.waiting + s.busy

/-- A move is one less ahead, whichever it is: of every position two are to
come at most. -/
theorem ahead_lt_of_step {move : Move} (hstep : b.step s move = some s') :
    s'.ahead < s.ahead := by
  cases move with
  | start i =>
      obtain ⟨path, -, hphase, -, rfl⟩ := step_start_eq_some_iff.mp hstep
      obtain ⟨hwaiting, hbusy⟩ := counts_begin (b := b) hphase path
      rw [State.ahead, State.ahead, hbusy]
      split <;> omega
  | reply i =>
      obtain ⟨path, answer, -, hphase, rfl⟩ := step_reply_eq_some_iff.mp hstep
      obtain ⟨hwaiting, hbusy⟩ := counts_conclude hphase path
      rw [State.ahead, State.ahead]
      omega

/-- What is behind and what is ahead are at most two moves for each
file. -/
theorem Runs.length_add_ahead_le (h : b.Runs g moves s) :
    moves.length + s.ahead ≤ 2 * b.paths.length := by
  induction h with
  | start =>
      have hwaiting : (b.start g).waiting ≤ b.paths.length := by
        have hle := List.countP_le_length (p := Phase.isWaiting) (l := (b.start g).phases)
        rwa [(sound_start b g).length] at hle
      have hbusy : (b.start g).busy = 0 := busy_start b g
      rw [State.ahead, List.length_nil]
      omega
  | step _ hstep ih =>
      have hlt := ahead_lt_of_step hstep
      rw [List.length_append, List.length_singleton]
      omega

/-- No run goes on for ever. -/
theorem Runs.length_le (h : b.Runs g moves s) : moves.length ≤ 2 * b.paths.length := by
  have hle := h.length_add_ahead_le
  omega

/-! ### Where a run ends -/

/-- Wherever somebody is busy a reply can come, so a batch that is stuck has
nobody busy. -/
theorem exists_step_of_busy (hlength : s.phases.length = b.paths.length) (h : 0 < s.busy) :
    ∃ move s', b.step s move = some s' := by
  obtain ⟨phase, hmem, hbusy⟩ := List.countP_pos_iff.mp h
  obtain ⟨i, hphase⟩ := List.mem_iff_getElem?.mp hmem
  cases phase with
  | asked answer =>
      obtain ⟨path, hpath⟩ := exists_path hlength hphase
      exact ⟨.reply i, _, step_reply_eq_some_iff.mpr ⟨path, answer, hpath, hphase, rfl⟩⟩
  | waiting => exact nomatch hbusy
  | ended => exact nomatch hbusy

/-- Where no move is possible, every position has ended: nobody is busy, so
all permits are free, and whoever waits could start. -/
theorem Stuck.exists_ended (hstuck : b.Stuck s) (hlimit : 0 < b.limit)
    (hlength : s.phases.length = b.paths.length) {i : Nat} {phase : Phase}
    (hphase : s.phases[i]? = some phase) : ∃ outcome, phase = .ended outcome := by
  have hidle : s.busy = 0 := by
    refine Nat.eq_zero_of_not_pos fun hbusy => ?_
    obtain ⟨move, s', hstep⟩ := exists_step_of_busy hlength hbusy
    exact nomatch (hstuck move).symm.trans hstep
  cases phase with
  | ended outcome => exact ⟨outcome, rfl⟩
  | asked answer =>
      have hpos : 0 < s.busy :=
        List.countP_pos_iff.mpr ⟨.asked answer, List.mem_of_getElem? hphase, rfl⟩
      omega
  | waiting =>
      -- With nobody busy there is a permit, so the position could start.
      obtain ⟨path, hpath⟩ := exists_path hlength hphase
      have hstep : b.step s (.start i) = some (b.begin s i path) :=
        step_start_eq_some_iff.mpr ⟨path, hpath, hphase, by omega, rfl⟩
      exact nomatch (hstuck (.start i)).symm.trans hstep

/-- Where nothing is possible any more, every position has ended with
what its file comes to. -/
theorem Runs.phases_of_stuck (h : b.Runs g moves s) (hlimit : 0 < b.limit)
    (hstuck : b.Stuck s) : s.phases = b.paths.mapIdx fun i path => .ended (b.outcome g i path) := by
  have hlength := h.sound.length
  refine List.ext_getElem? fun i => ?_
  rw [List.getElem?_mapIdx]
  cases hpath : b.paths[i]? with
  | none =>
      have hi := List.getElem?_eq_none_iff.mp hpath
      exact List.getElem?_eq_none (hlength ▸ hi)
  | some path =>
      obtain ⟨phase, hphase⟩ := exists_phase hlength hpath
      obtain ⟨outcome, rfl⟩ := hstuck.exists_ended hlimit hlength hphase
      obtain ⟨houtcome, -⟩ := h.sound.stands i path _ hpath hphase
      rw [hphase, houtcome, Option.map_some]

/-- Where no file breaks down alone, there is no breakdown at any
time. -/
theorem Sound.breakdown_of_outcomes (h : b.Sound g s)
    (hnone : ∀ i path, b.paths[i]? = some path → (b.outcome g i path).breakdown? = none) :
    s.breakdown = none := by
  refine h.breakdown.mpr fun i phase hphase => ?_
  cases phase with
  | waiting => rfl
  | asked => rfl
  | ended outcome =>
      obtain ⟨path, hpath⟩ := exists_path h.length hphase
      obtain ⟨rfl, -⟩ := h.stands i path _ hpath hphase
      exact hnone i path hpath

/-- Where nothing is possible any more, there was a breakdown exactly if
a file breaks down alone. -/
theorem Runs.breakdown_iff_of_stuck (h : b.Runs g moves s) (hlimit : 0 < b.limit)
    (hstuck : b.Stuck s) :
    s.breakdown = none
      ↔ ∀ i path, b.paths[i]? = some path → (b.outcome g i path).breakdown? = none := by
  refine ⟨fun hnone i path hpath => ?_, h.sound.breakdown_of_outcomes⟩
  have hphase : s.phases[i]? = some (.ended (b.outcome g i path)) := by
    rw [h.phases_of_stuck hlimit hstuck, List.getElem?_mapIdx, hpath, Option.map_some]
  exact h.sound.breakdown.mp hnone i _ hphase

/-! ### One file after the other -/

/-- The outcomes of files that are generated one after the other, each
with the generator that the one before it has left behind. The first of
them stands at position `i`. -/
def oneByOne (b : Batch) : Nat → Generator → List Path → List (Path × Outcome)
  | _, _, [] => []
  | i, g, path :: paths =>
    let generated := g.generateFile b.connect b.workspace b.includeExamples i path
    (path, generated.2.2) :: oneByOne b (i + 1) generated.1 paths

/-- One after the other, each file comes to what it comes to alone. The
generator is one that others have used before, and so the induction is
on the files for all generators at once. -/
theorem oneByOne_of_follows {g' : Generator} (h : Follows b.connect g g') (i : Nat)
    (paths : List Path) :
    b.oneByOne i g' paths = paths.mapIdx fun j path => (path, b.outcome g (i + j) path) := by
  induction paths generalizing g' i with
  | nil => rfl
  | cons path paths ih =>
      obtain ⟨hfollows, houtcome⟩ := h.generateFile b.workspace b.includeExamples i path
      have hrest : ∀ j, i + 1 + j = i + (j + 1) := fun j => by omega
      simp only [oneByOne, List.mapIdx_cons, ih hfollows, houtcome, outcome, Nat.add_zero, hrest]

/-- The files of a batch, generated one after the other. -/
theorem oneByOne_eq (b : Batch) (g : Generator) (paths : List Path) :
    b.oneByOne 0 g paths = paths.mapIdx fun i path => (path, b.outcome g i path) := by
  rw [oneByOne_of_follows (.refl b.connect g)]
  simp only [Nat.zero_add]

/-! ### Reports -/

/-- What a report lists for a file that has failed. -/
def failure? (entry : Path × Except GenerationError FileDoc) : Option (Text × GenerationError) :=
  match entry.2 with
  | .ok _ => none
  | .error e => some (entry.1.toText, e)

/-- A report, with what was reported on the way, tells of results: it
lists the documentation and the failures in their order, nothing else
and nothing twice, and each result was reported once for its
position. -/
structure Tells (results : List (Path × Except GenerationError FileDoc)) (report : Report)
    (reports : List (Nat × Except GenerationError FileDoc)) : Prop where
  docs : report.docs = results.filterMap fun entry => entry.2.toOption
  failures : report.failures = results.filterMap failure?
  total : report.total = results.length
  reported : ∀ i, reportedOf reports i = (results[i]?.map Prod.snd).toList

/-- The report on results lists them in their order, documentation and
failures apart. -/
theorem reportOf_eq (results : List (Path × Except GenerationError FileDoc)) :
    (reportOf results).docs = results.filterMap (fun entry => entry.2.toOption)
      ∧ (reportOf results).failures = results.filterMap failure? := by
  induction results with
  | nil => exact ⟨rfl, rfl⟩
  | cons entry results ih =>
      obtain ⟨path, result⟩ := entry
      cases result <;>
        simp [reportOf, Report.cons, ih.1, ih.2, failure?, Except.toOption, List.filterMap_cons]

/-- Every result is counted once, with the documentation or with the
failures. -/
theorem total_reportOf (results : List (Path × Except GenerationError FileDoc)) :
    (reportOf results).total = results.length := by
  induction results with
  | nil => rfl
  | cons entry results ih =>
      obtain ⟨path, result⟩ := entry
      rw [Report.total] at ih
      cases result <;>
        simp only [reportOf, Report.cons, Report.total, List.length_cons] <;> omega

/-- The results of positions that have all ended with one are read off their
phases again. -/
theorem filterMap_result? (results : List (Path × Except GenerationError FileDoc)) :
    ((results.map Prod.fst).zip (results.map fun entry => Phase.ended (.settled entry.2))).filterMap
      (fun entry => entry.2.result?.map fun result => (entry.1, result)) = results := by
  induction results with
  | nil => rfl
  | cons entry results ih =>
      rw [List.map_cons, List.map_cons, List.zip_cons_cons, List.filterMap_cons, ih]
      rfl

section Tells

variable {results : List (Path × Except GenerationError FileDoc)}

/-- Files that come to results one after the other are those of the
batch, and come to the same results alone. -/
theorem outcomes_of_oneByOne
    (halone : b.oneByOne 0 g b.paths = results.map fun entry => (entry.1, .settled entry.2)) :
    b.paths = results.map Prod.fst
      ∧ ∀ i, (b.paths[i]?.map fun path => b.outcome g i path)
        = results[i]?.map fun entry => .settled entry.2 := by
  rw [oneByOne_eq] at halone
  have hat : ∀ i, (b.paths[i]?.map fun path => (path, b.outcome g i path))
      = results[i]?.map fun entry => (entry.1, .settled entry.2) := by
    intro i
    have hitem := congrArg (fun entries => entries[i]?) halone
    simpa only [List.getElem?_mapIdx, List.getElem?_map] using hitem
  refine ⟨List.ext_getElem? fun i => ?_, fun i => ?_⟩
  · have hfirst := congrArg (Option.map Prod.fst) (hat i)
    rw [Option.map_map, Option.map_map] at hfirst
    rw [List.getElem?_map]
    exact (congrFun Option.map_id _).symm.trans hfirst
  · have hsecond := congrArg (Option.map Prod.snd) (hat i)
    rwa [Option.map_map, Option.map_map] at hsecond

/-- Where all files come to results one after the other, there is no
breakdown at any time. -/
theorem Sound.breakdown_of_oneByOne (h : b.Sound g s)
    (halone : b.oneByOne 0 g b.paths = results.map fun entry => (entry.1, .settled entry.2)) :
    s.breakdown = none := by
  obtain ⟨-, houtcomes⟩ := outcomes_of_oneByOne halone
  refine h.breakdown_of_outcomes fun i path hpath => ?_
  have hat := houtcomes i
  rw [hpath, Option.map_some] at hat
  obtain ⟨entry, -, hentry⟩ := Option.map_eq_some_iff.mp hat.symm
  rw [← hentry, Outcome.breakdown?]

/-- Where all files come to results one after the other, every run that
cannot go on tells of these results. -/
theorem Runs.tells (h : b.Runs g moves s) (hlimit : 0 < b.limit) (hstuck : b.Stuck s)
    (halone : b.oneByOne 0 g b.paths = results.map fun entry => (entry.1, .settled entry.2)) :
    Tells results (b.report s) s.reports := by
  obtain ⟨hpaths, houtcomes⟩ := outcomes_of_oneByOne halone
  have hended : s.phases = results.map fun entry => .ended (.settled entry.2) := by
    refine List.ext_getElem? fun i => ?_
    have hat := congrArg (Option.map Phase.ended) (houtcomes i)
    rw [Option.map_map, Option.map_map] at hat
    rw [h.phases_of_stuck hlimit hstuck, List.getElem?_mapIdx, List.getElem?_map]
    exact hat
  have hreport : b.report s = reportOf results := by
    rw [report, hended, hpaths, filterMap_result?]
  obtain ⟨hdocs, hfailures⟩ := reportOf_eq results
  refine ⟨hreport ▸ hdocs, hreport ▸ hfailures, hreport ▸ total_reportOf results, fun i => ?_⟩
  cases hentry : results[i]? with
  | none =>
      -- There is no such position, so nothing is reported for it.
      have hi := List.getElem?_eq_none_iff.mp hentry
      have hlength : b.paths.length = results.length := by rw [hpaths, List.length_map]
      exact (h.sound.outside i (by omega)).1
  | some entry =>
      have hpath : b.paths[i]? = some entry.1 := by
        rw [hpaths, List.getElem?_map, hentry, Option.map_some]
      have hphase : s.phases[i]? = some (.ended (.settled entry.2)) := by
        rw [hended, List.getElem?_map, hentry, Option.map_some]
      exact (h.sound.stands i entry.1 _ hpath hphase).2.1

end Tells

end DocScribe.Batch
