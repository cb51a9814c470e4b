import LabGrader.Batch.Loop

/-!
# Grading side by side

Tasks are spawned in their order and graded side by side, but only a limited number of them hold a
permit. A task takes its permit before the first question and gives it back at its end, however it
ends. Which task moves next is left open, and so is which of the waiting ones gets a free permit:
every order of events in which each event is possible is a run.
-/

namespace LabGrader.Batch

/-- What a task leaves behind: its result, or the message with which it broke off. -/
inductive Ending where
  | returned (result : Result)
  | broken (message : Text)
deriving DecidableEq

/-- The result for the submission at a path. A task that broke off says nothing about the author. -/
def Ending.result (p : Path) : Ending → Result
  | .returned result => result
  | .broken message => .failed ⟨p, none, panicReason message⟩

inductive Stage where
  | queued
  /-- a question is with the judge, after this many retries -/
  | asking (retries : Nat)
  /-- a pause before this retry -/
  | pausing (retry : Nat)
  | answered (answer : Text)
  | done (ending : Ending)
deriving DecidableEq

namespace Stage

def holdsPermit : Stage → Bool
  | .queued => false
  | .done _ => false
  | _ => true

def isAsking : Stage → Bool
  | .asking _ => true
  | _ => false

def ending? : Stage → Option Ending
  | .done e => some e
  | _ => none

/-- The permits that a task gives back when it gets here. -/
def returned : Stage → Nat
  | .done _ => 1
  | _ => 0

end Stage

structure State where
  /-- how far the tasks have got that have been spawned -/
  stages : List Stage
  /-- the permits that no task holds -/
  free : Nat
  folder : Folder

namespace State

/-- No task has been spawned, and every permit is free. -/
def start (settings : Settings) (d : Folder) : State := ⟨[], settings.permits, d⟩

def permitsHeld (s : State) : Nat := s.stages.countP Stage.holdsPermit

/-- The questions that are with the judge. -/
def inFlight (s : State) : Nat := s.stages.countP Stage.isAsking

/-- The results in the order of the tasks, once all of them have been spawned and are done. -/
def results? (tasks : List Task) (s : State) : Option (List Result) := do
  let endings ← s.stages.mapM Stage.ending?
  if endings.length = tasks.length then
    some (List.zipWith (fun t e => e.result t.submission.path) tasks endings)
  else none

def outcome? (p : Prepared) (s : State) : Option Outcome :=
  (s.results? p.plan.tasks).map (Outcome.ofResults p.plan.unread)

/-- Lets a task that holds a permit get to a stage. -/
def put (s : State) (i : Nat) (stage : Stage) : State :=
  { s with stages := s.stages.set i stage, free := s.free + stage.returned }

end State

/-- What a task can do, or have done to it. -/
inductive Move where
  | begin
  | hear (attempt : Attempt)
  | resume
  | write (fault : Option SystemError)
deriving DecidableEq

inductive Event where
  | spawn
  | move (task : Nat) (move : Move)
deriving DecidableEq

def afterAttempt (settings : Settings) (t : Task) (retries : Nat) (a : Attempt) : Stage :=
  if settings.retry.asksAgain retries a then .pausing (retries + 1)
  else match a with
    | .answered answer => .answered answer
    | .failed e => .done (.returned (.failed (t.failed e.message)))
    | .panicked message => .done (.broken message)

/-- One event; none if it is not possible. -/
def step? (settings : Settings) (tasks : List Task) (s : State) : Event → Option State
  | .spawn =>
    if s.stages.length < tasks.length then some { s with stages := s.stages ++ [.queued] }
    else none
  | .move i m => do
    let t ← tasks[i]?
    let stage ← s.stages[i]?
    match stage, m with
    | .queued, .begin =>
      if 0 < s.free then some { s.put i (.asking 0) with free := s.free - 1 } else none
    | .asking retries, .hear a => some (s.put i (afterAttempt settings t retries a))
    | .pausing retry, .resume => some (s.put i (.asking retry))
    | .answered answer, .write fault =>
      let (d, result) := keep settings t fault answer s.folder
      some { s.put i (.done (.returned result)) with folder := d }
    | _, _ => none

/-- The states that a batch can get to, if only allowed events happen. -/
inductive Reach (settings : Settings) (tasks : List Task) (allowed : State → Event → Prop)
    (start : State) : State → Prop where
  | start : Reach settings tasks allowed start start
  | step {s s' : State} {e : Event} : Reach settings tasks allowed start s → allowed s e →
      step? settings tasks s e = some s' → Reach settings tasks allowed start s'

/-- What a task does next in the world `w`, given how far it has got. -/
def World.move? (w : World) (t : Task) : Stage → Option Move
  | .queued => some .begin
  | .asking retries => some (.hear (w.attempt t retries))
  | .pausing _ => some .resume
  | .answered _ => some (.write (w.fault t))
  | .done _ => none

/-- The events of the world `w`: every task makes its own next move. -/
def World.Allows (w : World) (tasks : List Task) (s : State) : Event → Prop
  | .spawn => True
  | .move i m =>
    ∃ t stage, tasks[i]? = some t ∧ s.stages[i]? = some stage ∧ w.move? t stage = some m

/-- The states of a prepared batch in the world `w`. -/
def Prepared.Reaches (settings : Settings) (w : World) (p : Prepared) : State → Prop :=
  Reach settings p.plan.tasks (w.Allows p.plan.tasks) (.start settings p.folder)

end LabGrader.Batch
