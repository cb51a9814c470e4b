import LabGrader.Batch.Task

/-!
# Preparing a batch

The only thing that can stop a batch is a breakdown folder that cannot be made. It is made before
any submission is read, so the submissions are read from the folder as it is then.
-/

namespace LabGrader.Batch

structure Prepared where
  plan : Plan
  folder : Folder

/-- Makes the breakdown folder and plans the batch, with the folder as it is afterwards. -/
def begin (settings : Settings) (paths : List Path) (d : Folder) :
    Folder × Except GradingError Plan :=
  match d.makeWay settings.breakdownFolder with
  | (made, .ok ()) => (made, .ok (Plan.ofPaths made paths))
  | (made, .error cause) => (made, .error (.breakdownFolderNotMade settings.breakdownFolder cause))

def prepare (settings : Settings) (paths : List Path) (d : Folder) :
    Except GradingError Prepared :=
  match begin settings paths d with
  | (made, .ok plan) => .ok ⟨plan, made⟩
  | (_, .error e) => .error e

end LabGrader.Batch
