import DocScribe.Generation.Batch

/-!
# `DocScribe.Generation.Turns`: files taking turns

Of the many orders in which a batch can go, this is the one in which
positions take turns. Each takes its first turn in the order of the
list. A position that is refused a permit queues up for one; a
position whose request is under way gives its turn back a fixed number
of times before the reply is there. Whoever gives back a turn goes to
the end of the line, and so does the first in the queue when a permit
becomes free.
-/

set_option autoImplicit false

namespace DocScribe.Batch

/-- What a position does at its turn. -/
inductive Turn where
  | start
  | wait (more : Nat)
deriving DecidableEq, Repr

/-- The line of turns and the queue for permits. -/
structure Line where
  turns : List (Nat × Turn)
  queue : List Nat

/-- Let the first in the queue start when a permit is free. -/
def Line.release (line : Line) : Line :=
  match line.queue with
  | [] => line
  | i :: rest => ⟨line.turns ++ [(i, .start)], rest⟩

/-- What follows a start: the position has ended, has no request to
wait for, or waits `patience` turns. -/
def afterStart (b : Batch) (patience : Nat) (s : State) (line : Line) (i : Nat) : State × Line :=
  match s.phases[i]? with
  | some (.asked answer) =>
    if answer.sent ∧ 0 < patience then
      (s, { line with turns := line.turns ++ [(i, .wait patience)] })
    -- There is nothing to wait for, and the permit is free at the end of this turn.
    else (b.advance s (.reply i), line.release)
  | _ => (s, line.release)

/-- One turn. -/
def takeTurn (b : Batch) (patience : Nat) (s : State) (line : Line) (i : Nat) :
    Turn → State × Line
  | .start =>
    if s.busy < b.limit then b.afterStart patience (b.advance s (.start i)) line i
    -- No permit is free: the position gets its next turn from whoever ends.
    else (s, { line with queue := line.queue ++ [i] })
  | .wait (more + 2) => (s, { line with turns := line.turns ++ [(i, .wait (more + 1))] })
  | .wait _ => (b.advance s (.reply i), line.release)

/-- At most `fuel` turns, or until there are none or a breakdown. -/
def takeTurns (b : Batch) (patience : Nat) : Nat → State → Line → State
  | 0, s, _ => s
  | fuel + 1, s, line =>
    -- After a breakdown nobody takes a turn; what is under way stays so.
    if s.breakdown.isSome then s
    else
      match line.turns with
      | [] => s
      | (i, turn) :: turns =>
        let next := b.takeTurn patience s { line with turns := turns } i turn
        takeTurns b patience fuel next.1 next.2

/-- Every position takes at most a turn to queue up, one to start, and
those that it gives back. -/
def turnsNeeded (b : Batch) (patience : Nat) : Nat :=
  b.paths.length * (patience + 2)

/-- All positions taking turns. -/
def finish (b : Batch) (patience : Nat) (g : Generator) : State :=
  b.takeTurns patience (b.turnsNeeded patience) (b.start g)
    ⟨(List.range b.paths.length).map fun i => (i, .start), []⟩

/-- The outcome of a batch: what it has logged, the prompts it sent,
and its report unless it broke down. -/
structure Conclusion where
  log : List Log.Entry
  prompts : List Text
  reports : List (Nat × Except GenerationError FileDoc)
  peak : Nat
  report : Except Generation.Breakdown Report

/-- Run a batch with a positive limit. -/
def run (b : Batch) (patience : Nat) (g : Generator) : Conclusion :=
  if b.limit = 0 then ⟨[], [], [], 0, .error .noPermits⟩
  else
    let s := b.finish patience g
    let log := Log.info "generating_for_paths" :: s.log
    match s.breakdown with
    | some breakdown => ⟨log, s.prompts, s.reports, s.peak, .error breakdown⟩
    | none =>
      ⟨log ++ [Log.info "paths_generation_complete"], s.prompts, s.reports, s.peak,
        .ok (b.report s)⟩

end DocScribe.Batch
