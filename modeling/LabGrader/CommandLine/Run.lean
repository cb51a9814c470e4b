import LabGrader.CommandLine.Arguments
import LabGrader.CommandLine.Log
import LabGrader.Judge.Chat
import LabGrader.Judge.Script
import LabGrader.Report.File
import LabGrader.Report.Table
import LabGrader.Settings.EnvironmentFile

/-!
# Runs of the program

A run is a function of the arguments, the environment, the working folder and the service that the
judge is behind. It gives back what is printed, what is logged, and the folder as it is afterwards.
-/

namespace LabGrader.CommandLine

structure Setting where
  arguments : List Text
  environment : Environment
  folder : Folder
  /-- whether the terminal shows colours -/
  colored : Bool
  /-- the reply to instructions and a prompt; none if nothing can be reached -/
  service : Access → Text → Text → Option Chat.Reply

/-- What a run has done so far. -/
structure Console where
  folder : Folder
  output : Text := []
  errors : Text := []
  log : List Log.Line := []
  /-- the number of questions that were asked -/
  questions : Nat := 0

/-- A run that may end early keeps what it has done. -/
abbrev Session := ExceptT GradingError (StateM Console)

namespace Session

/-- How a session ends, and what it has done until then. -/
def execute {α : Type} (session : Session α) (c : Console) : Except GradingError α × Console :=
  Id.run (session.run.run c)

def tell (lines : List Log.Line) : Session Unit :=
  modify fun c => { c with log := c.log ++ lines }

def print (t : Text) : Session Unit := modify fun c => { c with output := c.output ++ t }

def warn (t : Text) : Session Unit := modify fun c => { c with errors := c.errors ++ t }

/-- Goes on with the folder as it is. -/
def withFolder {α : Type} (f : Folder → Except GradingError α) : Session α := do
  match f (← get).folder with
  | .ok x => return x
  | .error e => throw e

/-- Does something with the folder, which stays changed if it fails. -/
def changeFolder {α : Type} (f : Folder → Folder × Except GradingError α) : Session α := do
  let (folder, result) := f (← get).folder
  modify fun c => { c with folder }
  match result with
  | .ok x => return x
  | .error e => throw e

def gradeBatch (settings : Settings) (w : Batch.World) (paths : List Path) :
    Session Batch.Outcome := do
  let plan ← changeFolder (Batch.begin settings paths)
  tell [Log.batchBegun paths.length settings.permits]
  tell (plan.unread.map Log.skipped)
  let tasks := plan.tasks
  let (folder, results) := Batch.loop settings w tasks (← get).folder
  let conversations := tasks.map fun t => converse settings.retry (w.attempt t)
  let outcome := Batch.Outcome.ofResults plan.unread results
  let questions := (conversations.map Conversation.calls).foldl Nat.add 0
  modify fun c => { c with folder, questions := c.questions + questions }
  for ((t, c), result) in (tasks.zip conversations).zip results do
    tell (Log.task settings t (w.attempt t) c result)
  tell [Log.batchEnded outcome]
  return outcome

/-- Runs a whole job; `world` is what its tasks meet, given the instructions for the judge. -/
def runJob (settings : Settings) (world : Text → Batch.World) (j : Job) : Session Batch.Outcome := do
  let (sheet, assignment) ← withFolder j.read
  tell [Log.assignmentLoaded assignment.name]
  let paths ← withFolder j.files
  gradeBatch settings (world (assignment.instructions sheet)) paths

/-- What the judge does for a task at each attempt. A reply takes time, so a limit of no time at all
is exceeded by each. -/
def attempt (s : Setting) (settings : Settings) (a : Access) (instructions : Text)
    (t : Batch.Task) : Attempt :=
  let reply := Chat.attempt a (s.service a instructions t.submission.prompt)
  (Turn.under settings.timeout 0 ⟨1, some reply⟩).1

/-- The judge behind the service. It does the same at each attempt. -/
def world (s : Setting) (settings : Settings) (a : Access) (instructions : Text) : Batch.World where
  attempt t _ := attempt s settings a instructions t

def report (s : Setting) (o : GradeOptions) (outcome : Batch.Outcome) : Session Unit := do
  if !outcome.records.isEmpty then
    print (Text.joinWith ['\n'] (Report.Table.draw outcome.records) ++ ['\n'])
  let format := o.format.getD (Report.Format.ofPath o.output)
  changeFolder fun d => Report.write d o.output format outcome.records
  warn (Ungraded.painted s.colored "32" ("Results saved to ".toList ++ o.output.text) ++ ['\n'])
  warn (Ungraded.summary s.colored outcome.failures)

def grade (s : Setting) (env : Environment) (o : GradeOptions) : Session Unit := do
  let loaded ← withFolder fun d => Settings.load env d o.settings
  let settings := loaded.override o.overrides
  let access ← withFolder fun _ => settings.access?
  tell [Log.modelUsed access.model]
  report s o (← runJob settings (world s settings access) o.job)

/-- The style report of a file, its members in the order of their names. -/
def styleJson (identity : Text) (r : Style.Report) : Json.Value :=
  .object
    [("boundary_violation".toList, .flag r.boundaryViolation),
      ("brace_violations".toList, .ofNat r.braceViolations),
      ("deduction".toList, .ofNumber .binary64 (r.total BinaryFormat.binary64.round)),
      ("identity".toList, .text identity)]

def check (env : Environment) (file : Path) (settingsFile : Option Path) : Session Unit := do
  let settings ← withFolder fun d => Settings.load env d settingsFile
  let submission ← withFolder fun d => Submission.read d file
  let r := submission.styleReport settings
  tell [Log.styleChecked file r]
  print ((styleJson submission.identity r).pretty ++ ['\n'])

end Session

/-- Later lines of a reason stand under its first one. -/
def indented (first rest : Text) (reason : Text) : Text :=
  match reason.splitOn '\n' with
  | [] => first
  | line :: lines => first ++ line ++ lines.flatMap fun l => '\n' :: rest ++ l

/-- What is printed about an error; several reasons are numbered. -/
def errorText (e : GradingError) : Text :=
  let blanks (n : Nat) : Text := List.replicate n ' '
  let numbered (n : Nat) : Text :=
    let number := Text.ofNat n
    blanks (5 - number.length) ++ number ++ ": ".toList
  let reasons := match e.reasons with
    | [] => []
    | [reason] => [indented (blanks 4) (blanks 4) reason]
    | reasons => reasons.zipIdx.map fun (reason, n) => indented (numbered n) (blanks 7) reason
  "Error: ".toList ++ e.headline ++
    (if reasons.isEmpty then [] else "\n\nCaused by:".toList) ++
    reasons.flatMap (fun reason => '\n' :: reason) ++ ['\n']

structure Result where
  code : Nat
  console : Console
  /-- the log lines that are shown -/
  log : List Text

def usage : Text :=
  "Grades Java submissions with an LLM judge and style deductions

Usage: [-v] COMMAND ...

    grade  --scoring-sheet FILE --assignment FILE --submissions DIR [--output FILE]
           [--format csv|tsv|json] [--breakdown-dir DIR] [--config FILE] [--model NAME] [-j N]
    check  FILENAME [--config FILE]
".toList

def run (s : Setting) : Result :=
  let start : Console := { folder := s.folder }
  match Options.ofArguments s.arguments with
  | .error .help => ⟨0, { start with output := usage }, []⟩
  | .error .misuse => ⟨1, { start with errors := usage }, []⟩
  | .ok options =>
    let env := EnvironmentFile.complete s.environment s.folder
    let session := match options.command with
      | .grade o => Session.grade s env o
      | .check file settings => Session.check env file settings
    let (ended, console) := Session.execute session start
    let log := (console.log.filter (Log.Line.isShown options.verbose)).map Log.Line.text
    match ended with
    | .ok () => ⟨0, console, log⟩
    | .error e => ⟨1, { console with errors := console.errors ++ errorText e }, log⟩

end LabGrader.CommandLine
