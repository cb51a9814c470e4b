import LabGrader.Batch.Step
import LabGrader.Judge.Script

/-!
# Rehearsals

A rehearsal is the run of a batch against a scripted judge. Permits go to the tasks in their order;
of the events that are due, the earliest happens first, and of two at the same time the one that was
put on the agenda first. A judge counts its turns by prompt, whichever task asks.
-/

namespace LabGrader.Batch

structure Rehearsal where
  settings : Settings
  judge : Casting
  tasks : List Task
  /-- how long every question takes beside the delay of the turn -/
  hold : Nat
  state : State
  now : Nat := 0
  waiting : List Nat
  /-- the moves that are due: when, of which task, and which -/
  agenda : List (Nat × Nat × Move) := []
  asked : List (Text × Nat) := []
  peak : Nat := 0

namespace Rehearsal

def count (asked : List (Text × Nat)) (prompt : Text) : Nat := (asked.lookup prompt).getD 0

def countUp (prompt : Text) : List (Text × Nat) → List (Text × Nat)
  | [] => [(prompt, 1)]
  | (p, n) :: rest => if p = prompt then (p, n + 1) :: rest else (p, n) :: countUp prompt rest

def plan (r : Rehearsal) (time i : Nat) (m : Move) : Rehearsal :=
  { r with agenda := r.agenda ++ [(r.now + time, i, m)] }

def perform (r : Rehearsal) (e : Event) : Rehearsal :=
  match step? r.settings r.tasks r.state e with
  | none => r
  | some s => { r with state := s, peak := max r.peak s.inFlight }

def ask (r : Rehearsal) (i : Nat) : Rehearsal :=
  match r.tasks[i]? with
  | none => r
  | some t =>
    let prompt := t.submission.prompt
    let (a, time) := (r.judge.turn prompt (count r.asked prompt)).under r.settings.timeout r.hold
    { r.plan time i (.hear a) with asked := countUp prompt r.asked }

/-- Lets the first task in the queue begin, if there is a permit for it. -/
def grant (r : Rehearsal) : Rehearsal :=
  match r.waiting with
  | [] => r
  | i :: rest =>
    if 0 < r.state.free then ask ({ r with waiting := rest }.perform (.move i .begin)) i
    else r

/-- What follows at once from the stage that a task has reached. -/
def follow (r : Rehearsal) (i : Nat) : Rehearsal :=
  match r.state.stages[i]? with
  | some (.asking _) => r.ask i
  | some (.pausing retry) =>
    let p := r.settings.retry
    r.plan (p.pause retry (p.ceiling retry)) i .resume
  | some (.answered _) => (r.perform (.move i (.write none))).grant
  | some (.done _) => r.grant
  | _ => r

/-- The first of the earliest entries of an agenda. -/
def earliest : List (Nat × Nat × Move) → Option (Nat × Nat × Move)
  | [] => none
  | x :: rest => some (rest.foldl (fun best y => if y.1 < best.1 then y else best) x)

/-- Goes through the agenda, at most `fuel` events. -/
def runFor : Nat → Rehearsal → Rehearsal
  | 0, r => r
  | fuel + 1, r =>
    match earliest r.agenda with
    | none => r
    | some (due, i, m) =>
      let agenda := r.agenda.filter fun x => x.2.1 ≠ i
      runFor fuel (({ r with now := due, agenda }.perform (.move i m)).follow i)

/-- A whole rehearsal. A task takes two events for every question. -/
def run (settings : Settings) (judge : Casting) (hold : Nat) (tasks : List Task) (d : Folder) :
    Rehearsal :=
  let r : Rehearsal :=
    { settings, judge, tasks, hold, state := .start settings d, waiting := List.range tasks.length }
  let r := tasks.foldl (fun r _ => r.perform .spawn) r
  runFor (tasks.length * (2 * settings.retry.maxRetries + 2)) (tasks.foldl (fun r _ => r.grant) r)

def results (r : Rehearsal) : List Result := (r.state.results? r.tasks).getD []

end Rehearsal

end LabGrader.Batch
