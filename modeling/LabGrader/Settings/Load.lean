import LabGrader.Error
import LabGrader.Settings.Layer

/-!
# Sources of settings

Settings come from the environment, a settings file laid over it, and the overrides of a single run
laid over both.
-/

namespace LabGrader

def Layer.read (d : Folder) (p : Path) : Except GradingError Layer :=
  match d.readText p with
  | .error cause => .error (.settingsUnreadable p cause)
  | .ok t =>
    match Json.parse Layer.reader t with
    | .error fault => .error (.settingsMalformed p fault)
    | .ok l => .ok l

/-- Settings for one run only. -/
structure Overrides where
  model : Option Text := none
  concurrency : Option Nat := none
  breakdownFolder : Option Path := none
deriving DecidableEq

namespace Settings

def load (env : Environment) (d : Folder) (file : Option Path) : Except GradingError Settings :=
  match file with
  | none => .ok (ofEnvironment env)
  | some p =>
    match Layer.read d p with
    | .error e => .error e
    | .ok l => .ok ((ofEnvironment env).apply env l)

def override (s : Settings) (o : Overrides) : Settings :=
  let modelled := match o.model with
    | none => s
    | some model => s.setModel model
  { modelled with
    concurrency := o.concurrency.getD s.concurrency
    breakdownFolder := o.breakdownFolder.getD s.breakdownFolder }

/-- How the judge is reached; without a key it cannot be. -/
def access? (s : Settings) : Except GradingError Access :=
  match s.access with
  | none => .error .noKey
  | some a => .ok a

end Settings

end LabGrader
