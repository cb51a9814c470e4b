import LabGrader.Batch.Preparation
import LabGrader.Folder.Search

/-!
# Grading jobs

A job names a scoring sheet, an assignment and a folder of submissions. Without each of them no
submission could be graded, so what is wrong with them ends the job before the judge is asked.
-/

namespace LabGrader

structure Job where
  sheet : Path
  assignment : Path
  submissions : Path
deriving DecidableEq

def readSheet (d : Folder) (p : Path) : Except GradingError Text :=
  match d.readText p with
  | .error cause => .error (.sheetUnreadable p cause)
  | .ok t => if (Text.trim t).isEmpty then .error (.sheetBlank p) else .ok t

def Assignment.read (d : Folder) (p : Path) : Except GradingError Assignment :=
  match d.readText p with
  | .error cause => .error (.assignmentUnreadable p cause)
  | .ok t =>
    match Assignment.ofText? t with
    | none => .error (.assignmentBlank p)
    | some a => .ok a

def Assignment.instructions (a : Assignment) (sheet : Text) : Text :=
  Prompt.system a.name a.prompt sheet

namespace Job

/-- The scoring sheet, which is read first, and the assignment. -/
def read (j : Job) (d : Folder) : Except GradingError (Text × Assignment) := do
  let sheet ← readSheet d j.sheet
  let assignment ← Assignment.read d j.assignment
  return (sheet, assignment)

def instructions (j : Job) (d : Folder) : Except GradingError Text := do
  let (sheet, assignment) ← j.read d
  return assignment.instructions sheet

def extension : Text := "java".toList

def files (j : Job) (d : Folder) : Except GradingError (List Path) :=
  match d.filesWith extension j.submissions with
  | .error e => .error (.badSearch j.submissions e)
  | .ok [] => .error (.nothingFound j.submissions)
  | .ok paths => .ok paths

/-- Everything that is done before the judge is asked: the instructions and the batch. -/
def prepare (j : Job) (settings : Settings) (d : Folder) :
    Except GradingError (Text × Batch.Prepared) := do
  let instructions ← j.instructions d
  let paths ← j.files d
  let prepared ← Batch.prepare settings paths d
  return (instructions, prepared)

end Job

end LabGrader
