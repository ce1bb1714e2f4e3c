import DocScribe.Generation.Turns
import DocScribe.Proofs.Generation.Schedules
import Mathlib.Algebra.GroupWithZero.Nat

/-!
# `DocScribe.Proofs.Generation.Turns`: taking turns comes to an end

Taking turns is one of the orders in which a batch can go, and unless
the batch breaks down it goes on until no move is left
(`exists_runs_finish`). Two things carry the proof:

* `Lined`: whoever has not ended has a turn to come or queues up for
  one, and nobody queues up where nobody has a turn. A position queues
  up only when all permits are taken, so whoever holds one still has a
  turn and will free it.
* `Line.cost`: a number that every turn makes smaller. A start costs
  what the position can use up after it: its turns of waiting, one to
  queue up, and one that it leaves to the next in the queue.

`reports_on_any_schedule` then says of all orders at once, and of taking
turns in particular, that they come to the report of generating one
file after the other.
-/

set_option autoImplicit false

namespace DocScribe.Batch

open Generation Generator

variable {b : Batch} {g : Generator} {s s' : State} {line line' : Line} {patience i j : Nat}
  {phase : Phase}

/-! ### Moves that may be impossible -/

/-- A move of a run, if it is possible at all, leads to a run. If it is not
possible, nothing happens. -/
theorem exists_runs_advance (h : ∃ moves, b.Runs g moves s) (move : Move) :
    ∃ moves, b.Runs g moves (b.advance s move) := by
  obtain ⟨moves, hruns⟩ := h
  rw [advance]
  cases hstep : b.step s move with
  | none => exact ⟨moves, hruns⟩
  | some s' => exact ⟨moves ++ [move], hruns.step hstep⟩

/-- A move changes the phase of a position, not the number of them. So a
position that is in a line stays a position of the batch for the whole
run. -/
theorem length_advance (move : Move) :
    (b.advance s move).phases.length = s.phases.length := by
  rw [advance]
  cases hstep : b.step s move with
  | none => rfl
  | some s' =>
      cases move with
      | start i =>
          obtain ⟨path, -, -, -, rfl⟩ := step_start_eq_some_iff.mp hstep
          rw [Option.getD_some, begin_phases, List.length_set]
      | reply i =>
          obtain ⟨path, answer, -, -, rfl⟩ := step_reply_eq_some_iff.mp hstep
          rw [Option.getD_some, conclude_phases, List.length_set]

/-- A start changes the phase of its position only, and not even that if it
is not possible. -/
theorem advance_start_phases (h : i ≠ j) :
    (b.advance s (.start i)).phases[j]? = s.phases[j]? := by
  rw [advance]
  cases hstep : b.step s (.start i) with
  | none => rfl
  | some s' =>
      obtain ⟨path, -, -, -, rfl⟩ := step_start_eq_some_iff.mp hstep
      exact (untouched_begin b s h path).phase

/-- A reply changes the phase of its position only. If there is nothing to
reply to, it changes nothing at all. -/
theorem advance_reply_phases (h : i ≠ j) :
    (b.advance s (.reply i)).phases[j]? = s.phases[j]? := by
  rw [advance]
  cases hstep : b.step s (.reply i) with
  | none => rfl
  | some s' =>
      obtain ⟨path, answer, -, -, rfl⟩ := step_reply_eq_some_iff.mp hstep
      exact (untouched_conclude s h path answer).phase

/-- Under a free permit a start leaves nobody waiting: the position goes on
to be asked, or it ends at once. -/
theorem advance_start_ne_waiting (hlength : s.phases.length = b.paths.length)
    (hfree : s.busy < b.limit) : (b.advance s (.start i)).phases[i]? ≠ some .waiting := by
  intro hphase
  rw [advance] at hphase
  cases hstep : b.step s (.start i) with
  | none =>
      rw [hstep, Option.getD_none] at hphase
      obtain ⟨path, hpath⟩ := exists_path hlength hphase
      exact nomatch hstep.symm.trans
        (step_start_eq_some_iff.mpr ⟨path, hpath, hphase, hfree, rfl⟩)
  | some s' =>
      obtain ⟨path, -, hwaiting, -, rfl⟩ := step_start_eq_some_iff.mp hstep
      obtain ⟨hi, -⟩ := List.getElem?_eq_some_iff.mp hwaiting
      rw [hstep, Option.getD_some, begin_phases, List.getElem?_set_self hi,
        Option.some.injEq] at hphase
      cases hbegun : b.begun s.generator i path with
      | asked => exact nomatch hbegun ▸ hphase
      | ended => exact nomatch hbegun ▸ hphase

/-- After a reply its position has ended, unless it was waiting and
still is. -/
theorem advance_reply_phase (hlength : s.phases.length = b.paths.length)
    (hphase : (b.advance s (.reply i)).phases[i]? = some phase) :
    (∃ outcome, phase = .ended outcome) ∨ (s.phases[i]? = some .waiting ∧ phase = .waiting) := by
  rw [advance] at hphase
  cases hstep : b.step s (.reply i) with
  | none =>
      rw [hstep, Option.getD_none] at hphase
      cases phase with
      | ended outcome => exact .inl ⟨outcome, rfl⟩
      | waiting => exact .inr ⟨hphase, rfl⟩
      | asked answer =>
          obtain ⟨path, hpath⟩ := exists_path hlength hphase
          exact nomatch hstep.symm.trans
            (step_reply_eq_some_iff.mpr ⟨path, answer, hpath, hphase, rfl⟩)
  | some s' =>
      obtain ⟨path, answer, -, hasked, rfl⟩ := step_reply_eq_some_iff.mp hstep
      obtain ⟨hi, -⟩ := List.getElem?_eq_some_iff.mp hasked
      rw [hstep, Option.getD_some, conclude_phases, List.getElem?_set_self hi,
        Option.some.injEq] at hphase
      exact .inl ⟨_, hphase.symm⟩

/-! ### Whoever has not ended is in line -/

/-- A line has a turn, or a place in the queue, for what is left of a
position. -/
def Line.Covers (line : Line) (i : Nat) : Phase → Prop
  | .waiting => (i, .start) ∈ line.turns ∨ i ∈ line.queue
  | .asked _ => ∃ more, (i, .wait more) ∈ line.turns
  | .ended _ => True

/-- A line that keeps all turns, and gives everybody in the queue a
place or a start, covers as much. -/
theorem Line.Covers.mono (h : line.Covers j phase)
    (hturns : ∀ entry ∈ line.turns, entry ∈ line'.turns)
    (hqueue : ∀ k ∈ line.queue, (k, .start) ∈ line'.turns ∨ k ∈ line'.queue) :
    line'.Covers j phase := by
  cases phase with
  | waiting => exact h.elim (fun hturn => .inl (hturns _ hturn)) (hqueue j)
  | asked => exact h.imp fun more hturn => hturns _ hturn
  | ended => trivial

/-- Who has a turn keeps it when others get theirs behind. -/
theorem Line.Covers.append (h : line.Covers j phase) (entry : Nat × Turn) :
    Line.Covers { line with turns := line.turns ++ [entry] } j phase :=
  h.mono (fun _ hmem => List.mem_append_left _ hmem) fun _ hmem => .inr hmem

/-- The first in the queue keeps its place when it gets a turn. What was in
the line before is there afterwards; only the first in the queue changes
sides. -/
theorem Line.Covers.release (h : line.Covers j phase) : line.release.Covers j phase := by
  obtain ⟨turns, queue⟩ := line
  cases queue with
  | nil => exact h
  | cons first rest =>
      refine h.mono (fun _ hmem => List.mem_append_left _ hmem) fun k hmem => ?_
      rcases List.mem_cons.mp hmem with rfl | hmem
      · exact .inl (List.mem_append_right _ (List.mem_singleton.mpr rfl))
      · exact .inr hmem

/-- The turn of one position covers no other, so it can be taken out of the
line. -/
theorem Line.Covers.tail {turn : Turn} {turns : List (Nat × Turn)} {queue : List Nat}
    (h : Line.Covers ⟨(i, turn) :: turns, queue⟩ j phase) (hij : i ≠ j) :
    Line.Covers ⟨turns, queue⟩ j phase := by
  cases phase with
  | waiting =>
      refine h.imp_left fun hmem => (List.mem_cons.mp hmem).resolve_left fun heq => ?_
      exact hij (congrArg Prod.fst heq).symm
  | asked =>
      refine h.imp fun more hmem => (List.mem_cons.mp hmem).resolve_left fun heq => ?_
      exact hij (congrArg Prod.fst heq).symm
  | ended => trivial

/-- Whoever has not ended has a turn to come or queues up for one, and
nobody queues up where nobody has a turn. -/
structure Lined (s : State) (line : Line) : Prop where
  covers : ∀ j phase, s.phases[j]? = some phase → line.Covers j phase
  served : line.queue ≠ [] → line.turns ≠ []

/-- After a release somebody has a turn if anybody queues up: the first of
the queue has it. -/
theorem lined_release (h : ∀ j phase, s.phases[j]? = some phase → line.Covers j phase) :
    Lined s line.release where
  covers j phase hphase := (h j phase hphase).release
  served hqueue := by
    obtain ⟨turns, queue⟩ := line
    cases queue with
    | nil => exact absurd rfl hqueue
    | cons first rest => exact List.append_ne_nil_of_right_ne_nil _ (List.cons_ne_nil _ _)

/-- A reply after which all others are in line keeps everybody in line, and
lets the next one out of the queue, since a permit is free. -/
theorem lined_reply (hlength : s.phases.length = b.paths.length)
    (h : ∀ j phase, i ≠ j → s.phases[j]? = some phase → line.Covers j phase)
    (hi : s.phases[i]? = some .waiting → line.Covers i .waiting) :
    Lined (b.advance s (.reply i)) line.release := by
  refine lined_release fun j phase hphase => ?_
  by_cases hij : i = j
  · subst hij
    rcases advance_reply_phase hlength hphase with ⟨outcome, rfl⟩ | ⟨hwaiting, rfl⟩
    · trivial
    · exact hi hwaiting
  · exact h j phase hij (advance_reply_phases hij ▸ hphase)

/-- What follows a start keeps everybody in line: the position waits for its
reply, or has ended and lets the next one in. -/
theorem lined_afterStart (hlength : s.phases.length = b.paths.length)
    (h : ∀ j phase, i ≠ j → s.phases[j]? = some phase → line.Covers j phase)
    (hi : s.phases[i]? ≠ some .waiting) :
    Lined (b.afterStart patience s line i).1 (b.afterStart patience s line i).2 := by
  rw [afterStart]
  split
  · next answer hasked =>
    split
    · -- The answer is waited for, with a turn of its own.
      refine ⟨fun j phase hphase => ?_, fun _ => ?_⟩
      · by_cases hij : i = j
        · subst hij
          obtain rfl := Option.some.inj (hasked.symm.trans hphase)
          exact ⟨patience, List.mem_append_right _ (List.mem_singleton.mpr rfl)⟩
        · exact (h j phase hij hphase).append _
      · exact List.append_ne_nil_of_right_ne_nil _ (List.cons_ne_nil _ _)
    · exact lined_reply hlength h fun hwaiting => absurd hwaiting hi
  · -- The file has ended without an answer, so its permit is passed on.
    next hnot =>
    refine lined_release fun j phase hphase => ?_
    by_cases hij : i = j
    · subst hij
      cases phase with
      | waiting => exact absurd hphase hi
      | asked answer => exact absurd hphase (hnot answer)
      | ended => trivial
    · exact h j phase hij hphase

/-- Who has no permit joins the queue. Somebody else has all the permits
then, so there is a turn. -/
theorem Lined.queue {turns : List (Nat × Turn)} {queue : List Nat}
    (h : Lined s ⟨(i, .start) :: turns, queue⟩) (hbusy : 0 < s.busy) :
    Lined s ⟨turns, queue ++ [i]⟩ := by
  -- Turns to wait are not the start that is given up.
  have hwait : ∀ j answer, s.phases[j]? = some (.asked answer) →
      ∃ more, (j, Turn.wait more) ∈ turns := by
    intro j answer hphase
    refine (h.covers j _ hphase).imp fun more hmem => ?_
    exact (List.mem_cons.mp hmem).resolve_left fun heq => nomatch congrArg Prod.snd heq
  refine ⟨fun j phase hphase => ?_, fun _ => ?_⟩
  · cases phase with
    | waiting =>
        rcases h.covers j _ hphase with hmem | hmem
        · rcases List.mem_cons.mp hmem with heq | hmem
          · obtain rfl : j = i := congrArg Prod.fst heq
            exact .inr (List.mem_append_right _ (List.mem_singleton.mpr rfl))
          · exact .inl hmem
        · exact .inr (List.mem_append_left _ hmem)
    | asked answer => exact hwait j answer hphase
    | ended => trivial
  · obtain ⟨phase, hmem, hasked⟩ := List.countP_pos_iff.mp hbusy
    obtain ⟨j, hphase⟩ := List.mem_iff_getElem?.mp hmem
    cases phase with
    | asked answer =>
        obtain ⟨more, hturn⟩ := hwait j answer hphase
        exact List.ne_nil_of_mem hturn
    | waiting => exact nomatch hasked
    | ended => exact nomatch hasked

/-- Giving a turn back keeps everybody in line. The turn goes behind the
others, for as long as the position has to wait. -/
theorem Lined.giveBack {turns : List (Nat × Turn)} {queue : List Nat} {more more' : Nat}
    (h : Lined s ⟨(i, .wait more) :: turns, queue⟩) :
    Lined s ⟨turns ++ [(i, .wait more')], queue⟩ where
  covers j phase hphase := by
    have hcovers := h.covers j phase hphase
    cases phase with
    | waiting =>
        refine hcovers.imp_left fun hmem => List.mem_append_left _ ?_
        exact (List.mem_cons.mp hmem).resolve_left fun heq => nomatch congrArg Prod.snd heq
    | asked answer =>
        obtain ⟨k, hmem⟩ := hcovers
        rcases List.mem_cons.mp hmem with heq | hmem
        · obtain rfl : j = i := congrArg Prod.fst heq
          exact ⟨more', List.mem_append_right _ (List.mem_singleton.mpr rfl)⟩
        · exact ⟨k, List.mem_append_left _ hmem⟩
    | ended => trivial
  served _ := List.append_ne_nil_of_right_ne_nil _ (List.cons_ne_nil _ _)

/-- The last turn of a position that was asked keeps everybody else in
line. -/
theorem Lined.conclude {turns : List (Nat × Turn)} {queue : List Nat} {more : Nat}
    (h : Lined s ⟨(i, .wait more) :: turns, queue⟩)
    (hlength : s.phases.length = b.paths.length) :
    Lined (b.advance s (.reply i)) (Line.release ⟨turns, queue⟩) := by
  refine lined_reply hlength (fun j phase hij hphase => (h.covers j phase hphase).tail hij) ?_
  intro hwaiting
  refine (h.covers i _ hwaiting).imp_left fun hmem => ?_
  exact (List.mem_cons.mp hmem).resolve_left fun heq => nomatch congrArg Prod.snd heq

/-- Each turn keeps everybody in line, whether it is a start that finds a
permit, a start that has to queue up, or a wait. -/
theorem Lined.takeTurn {turn : Turn} {turns : List (Nat × Turn)} {queue : List Nat}
    (h : Lined s ⟨(i, turn) :: turns, queue⟩) (hlength : s.phases.length = b.paths.length)
    (hlimit : 0 < b.limit) :
    Lined (b.takeTurn patience s ⟨turns, queue⟩ i turn).1
      (b.takeTurn patience s ⟨turns, queue⟩ i turn).2 := by
  match turn with
  | .start =>
      rw [Batch.takeTurn]
      split
      · next hfree =>
        refine lined_afterStart ((length_advance _).trans hlength) (fun j phase hij hphase => ?_)
          (advance_start_ne_waiting hlength hfree)
        exact (h.covers j phase (advance_start_phases hij ▸ hphase)).tail hij
      · next hfull => exact h.queue (by omega)
  | .wait 0 => exact h.conclude hlength
  | .wait 1 => exact h.conclude hlength
  | .wait (more + 2) => exact h.giveBack

/-- Where there are no turns, no move is left: nobody queues up either, and
so all positions have ended. -/
theorem Lined.stuck {queue : List Nat} (h : Lined s ⟨[], queue⟩) : b.Stuck s := by
  have hqueue : queue = [] := by
    cases queue with
    | nil => rfl
    | cons first rest => exact absurd rfl (h.served (List.cons_ne_nil first rest))
  intro move
  refine Option.eq_none_iff_forall_ne_some.mpr fun s' hstep => ?_
  cases move with
  | start i =>
      obtain ⟨path, -, hphase, -, -⟩ := step_start_eq_some_iff.mp hstep
      rcases h.covers i _ hphase with hmem | hmem
      · exact List.not_mem_nil hmem
      · exact List.not_mem_nil (hqueue ▸ hmem)
  | reply i =>
      obtain ⟨path, answer, -, hphase, -⟩ := step_reply_eq_some_iff.mp hstep
      obtain ⟨more, hmem⟩ := h.covers i _ hphase
      exact List.not_mem_nil hmem

/-- At the start everybody has a turn, and nobody queues up. The turns are
in the order of the positions, but for the lemmas any order would do. -/
theorem lined_start (b : Batch) (g : Generator) :
    Lined (b.start g) ⟨(List.range b.paths.length).map fun i => (i, .start), []⟩ where
  covers i phase hphase := by
    obtain ⟨hi, -⟩ := List.getElem?_eq_some_iff.mp hphase
    rw [(sound_start b g).length] at hi
    rw [phase_start b g hphase]
    exact .inl (List.mem_map.mpr ⟨i, List.mem_range.mpr hi, rfl⟩)
  served hqueue := absurd rfl hqueue

/-! ### What turns cost -/

/-- How many turns can come of one. -/
def Turn.cost (patience : Nat) : Turn → Nat
  | .start => patience + 2
  | .wait more => max more 1 + 1

/-- How many turns can come of a line. A place in the queue costs one
less than a start, which is the turn that led to it. -/
def Line.cost (patience : Nat) (line : Line) : Nat :=
  (line.turns.map fun entry => entry.2.cost patience).sum + line.queue.length * (patience + 1)

/-- A turn at the end of the line adds its cost. The cost bounds how long
the line can still take. -/
theorem cost_append (line : Line) (i : Nat) (turn : Turn) :
    Line.cost patience { line with turns := line.turns ++ [(i, turn)] }
      = line.cost patience + turn.cost patience := by
  simp only [Line.cost, List.map_append, List.sum_append, List.map_cons, List.map_nil,
    List.sum_singleton]
  omega

/-- A release adds at most the difference between a start and a place
in the queue. -/
theorem cost_release_le (patience : Nat) (line : Line) :
    line.release.cost patience ≤ line.cost patience + 1 := by
  obtain ⟨turns, queue⟩ := line
  cases queue with
  | nil => exact Nat.le_succ _
  | cons first rest =>
      simp only [Line.release, Line.cost, List.map_append, List.sum_append, List.map_cons,
        List.map_nil, List.sum_singleton, List.length_cons, Turn.cost, Nat.succ_mul]
      omega

/-- What is left after a start costs at most the rest of the line and one
turn more than the patience: a position that asks takes its turns of
waiting, and one that has ended lets the next out of the queue. -/
theorem cost_afterStart_le (b : Batch) (patience : Nat) (s : State) (line : Line) (i : Nat) :
    (b.afterStart patience s line i).2.cost patience ≤ line.cost patience + (patience + 1) := by
  have hrelease := cost_release_le patience line
  rw [afterStart]
  split
  · split
    · rw [cost_append, Turn.cost]
      omega
    · dsimp only
      omega
  · dsimp only
    omega

/-- Every turn makes the line cheaper, so the turns come to an end. A start
costs all that can come of it. -/
theorem cost_takeTurn_lt (b : Batch) (patience : Nat) (s : State) (i : Nat) (turn : Turn)
    (turns : List (Nat × Turn)) (queue : List Nat) :
    (b.takeTurn patience s ⟨turns, queue⟩ i turn).2.cost patience
      < Line.cost patience ⟨(i, turn) :: turns, queue⟩ := by
  have hcons : Line.cost patience ⟨(i, turn) :: turns, queue⟩
      = turn.cost patience + Line.cost patience ⟨turns, queue⟩ := by
    simp only [Line.cost, List.map_cons, List.sum_cons, Nat.add_assoc]
  have hrelease := cost_release_le patience ⟨turns, queue⟩
  rw [hcons]
  match turn with
  | .start =>
      -- A start costs as much as all that may follow it, and one more.
      rw [takeTurn, Turn.cost]
      split
      · have hafter := cost_afterStart_le b patience (b.advance s (.start i)) ⟨turns, queue⟩ i
        omega
      · simp only [Line.cost, List.length_append, List.length_singleton, Nat.succ_mul]
        omega
  | .wait 0 => exact Nat.lt_of_le_of_lt hrelease (by simp only [Turn.cost]; omega)
  | .wait 1 => exact Nat.lt_of_le_of_lt hrelease (by simp only [Turn.cost]; omega)
  | .wait (more + 2) =>
      rw [takeTurn, cost_append, Turn.cost, Turn.cost]
      omega

/-- In the beginning everybody has a start, which makes up the number of
turns that are needed at most. -/
theorem cost_start (b : Batch) (patience : Nat) :
    Line.cost patience ⟨(List.range b.paths.length).map fun i => (i, .start), []⟩
      = b.turnsNeeded patience := by
  simp [Line.cost, turnsNeeded, Function.comp_def, Turn.cost, List.map_const']

/-! ### All turns -/

/-- A turn is a move of the batch, or none: whoever is not ready leaves the
state as it is. So what a line of turns comes to, moves come to. -/
theorem exists_runs_takeTurn (h : ∃ moves, b.Runs g moves s) (turn : Turn) :
    ∃ moves, b.Runs g moves (b.takeTurn patience s line i turn).1 := by
  match turn with
  | .start =>
      have hstarted := exists_runs_advance h (.start i)
      rw [takeTurn]
      split
      · rw [afterStart]
        split
        · split
          · exact hstarted
          · exact exists_runs_advance hstarted (.reply i)
        · exact hstarted
      · exact h
  | .wait 0 => exact exists_runs_advance h (.reply i)
  | .wait 1 => exact exists_runs_advance h (.reply i)
  | .wait (more + 2) => exact h

/-- Turns are taken in a run, and with enough of them the run goes on
until no move is left or there was a breakdown. -/
theorem exists_runs_takeTurns (hlimit : 0 < b.limit) (fuel : Nat) (h : ∃ moves, b.Runs g moves s)
    (hline : Lined s line) (hfuel : line.cost patience ≤ fuel) :
    (∃ moves, b.Runs g moves (b.takeTurns patience fuel s line))
      ∧ ((b.takeTurns patience fuel s line).breakdown = none →
        b.Stuck (b.takeTurns patience fuel s line)) := by
  induction fuel generalizing s line with
  | zero =>
      refine ⟨h, fun _ => ?_⟩
      obtain ⟨turns, queue⟩ := line
      cases turns with
      | nil => exact hline.stuck
      | cons entry turns =>
          -- A turn costs something.
          obtain ⟨i, turn⟩ := entry
          have hlt := cost_takeTurn_lt b patience s i turn turns queue
          omega
  | succ fuel ih =>
      rw [takeTurns]
      split
      · next hbroken => exact ⟨h, fun hnone => by rw [hnone] at hbroken; exact nomatch hbroken⟩
      · obtain ⟨turns, queue⟩ := line
        cases turns with
        | nil => exact ⟨h, fun _ => hline.stuck⟩
        | cons entry turns =>
            obtain ⟨i, turn⟩ := entry
            have hlength : s.phases.length = b.paths.length := h.choose_spec.sound.length
            have hlt := cost_takeTurn_lt b patience s i turn turns queue
            exact ih (exists_runs_takeTurn h turn) (hline.takeTurn hlength hlimit)
              (Nat.le_of_lt_succ (Nat.lt_of_lt_of_le hlt hfuel))

/-- Taking turns is a run, and it goes on until no move is left or
there was a breakdown. -/
theorem exists_runs_finish (hlimit : 0 < b.limit) (patience : Nat) (g : Generator) :
    ∃ moves, b.Runs g moves (b.finish patience g)
      ∧ ((b.finish patience g).breakdown = none → b.Stuck (b.finish patience g)) := by
  obtain ⟨⟨moves, hruns⟩, hstuck⟩ := exists_runs_takeTurns hlimit (b.turnsNeeded patience)
    ⟨[], .start⟩ (lined_start b g) (Nat.le_of_eq (cost_start b patience))
  exact ⟨moves, hruns, hstuck⟩

/-! ### Reports of all orders -/

/-- What a batch with a positive limit concludes with, once all turns are
taken. -/
theorem run_eq (hlimit : 0 < b.limit) (patience : Nat) (g : Generator) :
    (b.run patience g).reports = (b.finish patience g).reports
      ∧ (b.run patience g).report
        = match (b.finish patience g).breakdown with
          | some breakdown => .error breakdown
          | none => .ok (b.report (b.finish patience g)) := by
  rw [run, if_neg (Nat.ne_of_gt hlimit)]
  cases hbreakdown : (b.finish patience g).breakdown <;> simp only [hbreakdown, and_self]

/-- **No order matters.** Let the files of a batch come to results when
they are generated one after the other. Then, in whatever order
positions start and replies come in,

* the run ends, after at most two moves for each file, and
* when no move is left there was no breakdown, the report lists the
  documentation and the failures in the order of the files, each file
  in one of the two lists, and every position was reported once, with
  its result.

Taking turns is such an order, so a batch that takes turns returns this
report however long its replies take. -/
theorem reports_on_any_schedule (b : Batch) (g : Generator)
    (results : List (Path × Except GenerationError FileDoc)) (hlimit : 0 < b.limit)
    (halone : b.oneByOne 0 g b.paths = results.map fun entry => (entry.1, .settled entry.2)) :
    (∀ moves s, b.Runs g moves s → moves.length ≤ 2 * b.paths.length
        ∧ (b.Stuck s → s.breakdown = none ∧ Tells results (b.report s) s.reports))
      ∧ ∀ patience, ∃ report, (b.run patience g).report = .ok report
        ∧ Tells results report (b.run patience g).reports := by
  refine ⟨fun moves s hruns => ?_, fun patience => ?_⟩
  · refine ⟨hruns.length_le, fun hstuck => ?_⟩
    exact ⟨hruns.sound.breakdown_of_oneByOne halone, hruns.tells hlimit hstuck halone⟩
  · obtain ⟨moves, hruns, hstuck⟩ := exists_runs_finish hlimit patience g
    obtain ⟨hreports, hreport⟩ := run_eq (b := b) hlimit patience g
    -- A run in which nobody breaks down is one that goes on to the end.
    have hnone : (b.finish patience g).breakdown = none :=
      hruns.sound.breakdown_of_oneByOne halone
    have htells := hruns.tells hlimit (hstuck hnone) halone
    rw [hnone] at hreport
    exact ⟨_, hreport, hreports ▸ htells⟩

/-- A generator whose provider answers everything with an object
without members. -/
def answering : Generator := ⟨some (.scripted fun _ => .answered "\x7b\x7d"), none⟩

/-- Two at a time: a file, one that is no text, one that is missing, and
the first again. -/
def mixture : Batch where
  connect _ := .scripted fun _ => .interrupted
  workspace := ⟨.folder [("a.py", .file [0x78]), ("b.py", .file [0xFF])], [], []⟩
  includeExamples := true
  limit := 2
  paths := [.ofText "a.py", .ofText "b.py", .ofText "c.py", .ofText "a.py"]

/-- What they come to. -/
def mixtureResults : List (Path × Except GenerationError FileDoc) :=
  let labeled : FileDoc := ⟨[], [], [], [], [], [], some "a.py", some "a.py"⟩
  [(.ofText "a.py", .ok labeled),
    (.ofText "b.py", .error ⟨.reading, "b.py", .file (.unreadable ⟨.badStart, 0, 1, 0xFF⟩)⟩),
    (.ofText "c.py", .error ⟨.reading, "c.py", .file (.refused .missing "c.py")⟩),
    (.ofText "a.py", .ok labeled)]

/-- Taking turns returns the report on them. -/
theorem tells_mixture :
    ∃ report, (mixture.run 3 answering).report = .ok report
      ∧ Tells mixtureResults report (mixture.run 3 answering).reports :=
  (reports_on_any_schedule mixture answering mixtureResults (by decide) rfl).2 3

end DocScribe.Batch
