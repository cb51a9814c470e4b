import LabGrader.Job
import LabGrader.Report.Format
import LabGrader.Settings.Load

/-!
# Arguments

The command line names a command and its options. An option stands once, before or after the others,
with its value attached or as the next word; the file of `check` is the first word that is left.
-/

namespace LabGrader.CommandLine

/-- An argument. One that was used up stays in its place, so that it separates its neighbours. -/
inductive Argument where
  | word (t : Text)
  | option (name : Text) (value : Option Text)
  | used
deriving DecidableEq

/-- Why there is nothing to run. -/
inductive Stop where
  | help
  | misuse
deriving DecidableEq

structure GradeOptions where
  job : Job
  output : Path
  format : Option Report.Format
  settings : Option Path
  overrides : Overrides
deriving DecidableEq

inductive Command where
  | grade (options : GradeOptions)
  | check (file : Path) (settings : Option Path)
deriving DecidableEq

structure Options where
  verbose : Bool
  command : Command
deriving DecidableEq

def defaultOutput : Path := .ofString "Graded.csv"

namespace Argument

/-- A name with a value attached to it by an equals sign. -/
def withValue (t : Text) : Argument :=
  match t.dropWhile (· ≠ '=') with
  | _ :: value => .option (t.takeWhile (· ≠ '=')) (some value)
  | [] => .option t none

/-- A long name stands after two dashes; a short one is a single character, and what follows it at
once is its value. -/
def ofText : Text → Argument
  | '-' :: '-' :: name => withValue name
  | '-' :: c :: rest =>
    match rest with
    | [] => .option [c] none
    | '=' :: value => .option [c] (some value)
    | value => .option [c] (some value)
  | t => .word t

/-- Two dashes alone make every later argument a word. -/
def ofTexts : List Text → List Argument
  | [] => []
  | t :: rest =>
    if t = ['-', '-'] then .used :: rest.map .word else ofText t :: ofTexts rest

def isOption (names : List String) : Argument → Bool
  | .option name _ => names.any fun n => n.toList = name
  | _ => false

def isUsed (a : Argument) : Bool := a = .used

/-- Takes a switch: whether it is there, and the arguments without it. -/
def takeSwitch (names : List String) : List Argument → Bool × List Argument
  | [] => (false, [])
  | a :: rest =>
    match a, isOption names a with
    | .option _ none, true => (true, .used :: rest)
    | a, _ =>
      let (found, rest) := takeSwitch names rest
      (found, a :: rest)

/-- Takes the value of an option, if the option is there. -/
def takeValue (names : List String) : List Argument → Except Stop (Option Text × List Argument)
  | [] => .ok (none, [])
  | a :: rest =>
    if isOption names a then
      match a, rest with
      | .option _ (some value), rest => .ok (some value, .used :: rest)
      | _, .word value :: rest => .ok (some value, .used :: .used :: rest)
      | _, _ => .error .misuse
    else do
      let (value, rest) ← takeValue names rest
      return (value, a :: rest)

def takeWord : List Argument → Option (Text × List Argument)
  | [] => none
  | .word t :: rest => some (t, .used :: rest)
  | a :: rest => (takeWord rest).map fun (t, rest) => (t, a :: rest)

end Argument

/-- A reader of arguments uses some of them up. -/
abbrev ArgumentReader := StateT (List Argument) (Except Stop)

namespace ArgumentReader

def value? (names : List String) : ArgumentReader (Option Text) := Argument.takeValue names

def path? (name : String) : ArgumentReader (Option Path) :=
  return (← value? [name]).map Path.mk

def required {α : Type} (x : Option α) : ArgumentReader α :=
  match x with
  | some x => return x
  | none => throw .misuse

/-- Reads a value that is there. -/
def checked {α : Type} (read : Text → Option α) (value : Option Text) :
    ArgumentReader (Option α) :=
  match value with
  | none => return none
  | some t => return some (← required (read t))

def grade : ArgumentReader Command := do
  let sheet ← required (← path? "scoring-sheet")
  let assignment ← required (← path? "assignment")
  let submissions ← required (← path? "submissions")
  let output ← path? "output"
  let format ← checked Report.Format.ofName? (← value? ["format"])
  let breakdownFolder ← path? "breakdown-dir"
  let settings ← path? "config"
  let model ← value? ["model"]
  let concurrency ← checked (Text.readNatural? (Nat.pow 2 64 - 1)) (← value? ["j", "jobs"])
  return .grade
    { job := ⟨sheet, assignment, submissions⟩
      output := output.getD defaultOutput
      format, settings, overrides := { model, concurrency, breakdownFolder } }

def check : ArgumentReader Command := do
  let (file, rest) ← required (Argument.takeWord (← get))
  set rest
  return .check ⟨file⟩ (← path? "config")

/-- The command is the first argument beside the switch. -/
def command : ArgumentReader Command := do
  let arguments := (← get).dropWhile Argument.isUsed
  match arguments with
  | .word t :: rest =>
    set rest
    if t = "grade".toList then grade
    else if t = "check".toList then check
    else throw .misuse
  | _ => throw .misuse

def options : ArgumentReader Options := do
  let (verbose, rest) := Argument.takeSwitch ["v", "verbose"] (← get)
  set rest
  return ⟨verbose, ← command⟩

end ArgumentReader

/-- Reads the command line. Nothing may be left over; a request for help counts if it is not
otherwise in order. -/
def Options.ofArguments (arguments : List Text) : Except Stop Options :=
  let arguments := Argument.ofTexts arguments
  let stop : Stop :=
    if (Argument.takeSwitch ["h", "help"] arguments).1 then .help else .misuse
  match ArgumentReader.options arguments with
  | .ok (options, rest) => if rest.all Argument.isUsed then .ok options else .error stop
  | .error _ => .error stop

end LabGrader.CommandLine
