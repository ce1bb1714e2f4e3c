import DocScribe.Generation.Generator

/-!
# `DocScribe.Generation.Batch`: several files at a time

A batch documents a list of files with one generator and a limit on
how many of them may be under way at once. Every position of the list
is waiting, asked, or ended. A move either starts a waiting position,
which reads its file and sends its request, or brings the reply to one
that was asked. `step` says what a move does and when it is possible;
any order of possible moves is a run.

The report lists the documentation and the failures in the order of
the files, whatever the order of the moves. A breakdown ends its
position without a result: there is no report then, but nothing keeps
the other positions from going on.
-/

set_option autoImplicit false

namespace DocScribe

/-- What a batch works on. -/
structure Batch where
  connect : Generator.Connect
  workspace : Workspace
  includeExamples : Bool
  limit : Nat
  paths : List Path

namespace Batch

open Generation

/-- How far a position has come. -/
inductive Phase where
  | waiting
  | asked (answer : Answer)
  | ended (outcome : Generator.Outcome)

/-- A call of the provider: the position that made it, its prompt, and
whether it led to a request. -/
structure Call where
  position : Nat
  prompt : Text
  sent : Bool

/-- What a batch has come to: the phase of every position, what was
logged, the calls of the provider, the results in the order in which
they were reported, the largest number of requests that were under way
at once, and the first breakdown if there was one. -/
structure State where
  generator : Generator
  phases : List Phase
  log : List Log.Entry
  calls : List Call
  reports : List (Nat × Except GenerationError FileDoc)
  peak : Nat
  breakdown : Option Breakdown

/-- All positions waiting. -/
def start (b : Batch) (g : Generator) : State :=
  { generator := g
    phases := b.paths.map fun _ => .waiting
    log := [], calls := [], reports := [], peak := 0, breakdown := none }

/-- Whether a position has started and has not ended. -/
def Phase.isBusy : Phase → Bool
  | .asked _ => true
  | _ => false

/-- Whether a request of a position is under way. -/
def Phase.isInFlight : Phase → Bool
  | .asked answer => answer.sent
  | _ => false

/-- How many positions are between their start and their end. -/
def State.busy (s : State) : Nat :=
  s.phases.countP Phase.isBusy

/-- How many requests are under way. -/
def State.inFlight (s : State) : Nat :=
  s.phases.countP Phase.isInFlight

/-- The prompts of the calls that led to a request. -/
def State.prompts (s : State) : List Text :=
  (s.calls.filter Call.sent).map Call.prompt

/-- The state with the outcome of a position. -/
def State.settle (s : State) (i : Nat) (outcome : Generator.Outcome) : State :=
  let ended := { s with phases := s.phases.set i (.ended outcome) }
  match outcome with
  | .settled result => { ended with reports := s.reports ++ [(i, result)] }
  -- Of several breakdowns the first one is kept.
  | .broken breakdown => { ended with breakdown := s.breakdown.or (some breakdown) }

/-- The state with a position asked. -/
def State.send (s : State) (i : Nat) (prompt : Text) (answer : Answer) : State :=
  let asked : State :=
    { s with
      phases := s.phases.set i (.asked answer)
      calls := s.calls ++ [⟨i, prompt, answer.sent⟩] }
  -- The request of this position is under way already.
  { asked with peak := max asked.peak asked.inFlight }

/-- What can happen next. -/
inductive Move where
  | start (i : Nat)
  | reply (i : Nat)
deriving DecidableEq, Repr

/-- Start a position. If it calls the provider, the call has its
number. -/
def begin (b : Batch) (s : State) (i : Nat) (path : Path) : State :=
  match s.generator.beginFile b.connect b.workspace b.includeExamples i path with
  | (g, log, .asked prompt answer) =>
    { s with generator := g, log := s.log ++ log }.send i prompt answer
  | (g, log, .ended outcome) =>
    { s with generator := g, log := s.log ++ log }.settle i outcome

/-- End a position with the answer it waited for. -/
def conclude (s : State) (i : Nat) (path : Path) (answer : Answer) : State :=
  let concluded := Generator.concludeFile path answer
  { s with log := s.log ++ concluded.1 }.settle i concluded.2

/-- What a move leads to, if it is possible. -/
def step (b : Batch) (s : State) : Move → Option State
  | .start i =>
    match b.paths[i]?, s.phases[i]? with
    -- The limit counts whoever has started, also a position that never sent its request.
    | some path, some .waiting => if s.busy < b.limit then some (b.begin s i path) else none
    | _, _ => none
  | .reply i =>
    match b.paths[i]?, s.phases[i]? with
    | some path, some (.asked answer) => some (conclude s i path answer)
    | _, _ => none

/-- The state after a move; an impossible one changes nothing. -/
def advance (b : Batch) (s : State) (move : Move) : State :=
  (b.step s move).getD s

/-! ### Reports -/

/-- What came of a batch, in the order of its files. -/
structure Report where
  docs : List FileDoc
  failures : List (Text × GenerationError)

/-- How many files were attempted. -/
def Report.total (r : Report) : Nat :=
  r.docs.length + r.failures.length

def Report.hasFailures (r : Report) : Bool :=
  !r.failures.isEmpty

/-- The result of a position that has ended with one. -/
def Phase.result? : Phase → Option (Except GenerationError FileDoc)
  | .ended (.settled result) => some result
  | _ => none

/-- A report with one more result in front. -/
def Report.cons (path : Path) (result : Except GenerationError FileDoc) (r : Report) : Report :=
  match result with
  | .ok doc => { r with docs := doc :: r.docs }
  | .error e => { r with failures := (path.toText, e) :: r.failures }

/-- The report on results in the order of the files. -/
def reportOf : List (Path × Except GenerationError FileDoc) → Report
  | [] => ⟨[], []⟩
  | (path, result) :: rest => (reportOf rest).cons path result

/-- The report on what is done. -/
def report (b : Batch) (s : State) : Report :=
  reportOf ((b.paths.zip s.phases).filterMap fun entry =>
    entry.2.result?.map fun result => (entry.1, result))

end Batch

end DocScribe
