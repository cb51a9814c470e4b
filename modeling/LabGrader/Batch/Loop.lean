import LabGrader.Batch.Preparation
import LabGrader.Judge.Retry

/-!
# Grading one after another

The plain way to grade a batch: each task in turn asks the judge, as often as the retry policy says,
and keeps the answer in its breakdown file. `step?` of the concurrent batch does the same work in
other orders.
-/

namespace LabGrader.Batch

/-- What tasks meet outside of the program. Tasks of one batch differ in their breakdown names, so
two tasks for the same submission may fare differently. -/
structure World where
  /-- what the judge does at each attempt of a task -/
  attempt : Task → Nat → Attempt
  /-- why the system refuses to write the file of a task, if it does -/
  fault : Task → Option SystemError := fun _ => none

def World.last (w : World) (settings : Settings) (t : Task) : Attempt :=
  (converse settings.retry (w.attempt t)).result

/-- Keeps an answer; the task has a record only if that succeeds. -/
def keep (settings : Settings) (t : Task) (fault : Option SystemError) (answer : Text)
    (d : Folder) : Folder × Result :=
  match d.writeUnless fault (t.file settings) (Text.utf8 answer) with
  | .error cause =>
    (d, .failed (t.failed (GradingError.breakdownNotWritten (t.file settings) cause).message))
  | .ok written => (written, .graded (t.submission.record settings answer))

def finish (settings : Settings) (t : Task) (fault : Option SystemError) (last : Attempt)
    (d : Folder) : Folder × Result :=
  match last with
  | .answered answer => keep settings t fault answer d
  | .failed e => (d, .failed (t.failed e.message))
  | .panicked message => (d, .failed (t.lost (panicReason message)))

def loop (settings : Settings) (w : World) : List Task → Folder → Folder × List Result
  | [], d => (d, [])
  | t :: rest, d =>
    let (d, result) := finish settings t (w.fault t) (w.last settings t) d
    let (d, results) := loop settings w rest d
    (d, result :: results)

/-- Grades a batch: the folder afterwards, and what the batch comes to. -/
def grade (settings : Settings) (w : World) (p : Prepared) : Folder × Outcome :=
  let (d, results) := loop settings w p.plan.tasks p.folder
  (d, .ofResults p.plan.unread results)

end LabGrader.Batch
