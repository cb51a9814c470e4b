import LabGrader.Breakdown
import LabGrader.Judge.Retry
import LabGrader.Style
import LabGrader.Text.Quoted

/-!
# Settings

Everything that grading has to know beside its files: how to reach the judge, what the style rules
cost, how patient and how parallel to be. Settings start from the environment; later sources are
laid over them.
-/

namespace LabGrader

/-- The values of variables that are set. -/
abbrev Environment := Text → Option Text

namespace Environment

def names : List String :=
  ["OPENAI_API_KEY", "OPENAI_ENDPOINT", "OPENAI_MODEL", "OPENAI_TEMPERATURE",
    "AIGRADE_TIMEOUT_SECS", "AIGRADE_CONCURRENCY"]

def ofList (vars : List (Text × Text)) : Environment := fun name => vars.lookup name

end Environment

namespace Text

/-- A row of digits with an optional plus sign, up to a limit. -/
def readNatural? (limit : Nat) (t : Text) : Option Nat :=
  let digits := match t with
    | '+' :: rest => rest
    | t => t
  if digits.isEmpty || !digits.all Char.isDigit then none
  else
    let n := Decimal.valueOf digits
    if n ≤ limit then some n else none

end Text

/-- How the judge is reached. -/
structure Access where
  apiBase : Text
  apiKey : Text
  model : Text
  temperature : Option Number := none
deriving DecidableEq

namespace Access

def defaultBase : Text := "https://api.openai.com/v1".toList

def defaultModel : Text := "gpt-4o".toList

/-- The value of a variable without blanks around it, unless nothing is left. -/
def setting? (env : Environment) (name : String) : Option Text :=
  ((env name.toList).map Text.trim).filter fun value => !value.isEmpty

/-- Without a key there is no access. -/
def ofEnvironment? (env : Environment) : Option Access :=
  (setting? env "OPENAI_API_KEY").map fun key =>
    { apiBase := (setting? env "OPENAI_ENDPOINT").getD defaultBase
      apiKey := key
      model := (setting? env "OPENAI_MODEL").getD defaultModel
      temperature := (setting? env "OPENAI_TEMPERATURE").bind (Number.read? .binary32) }

/-- The form in diagnostics, which keeps the key to itself. -/
def describe (a : Access) : Text :=
  let temperature := match a.temperature with
    | none => "None".toList
    | some x => "Some(".toList ++ x.write .diagnostic .binary32 ++ [')']
  "OpenAiEnv \x7b api_base: ".toList ++ Text.quoted a.apiBase ++ ", model: ".toList ++
    Text.quoted a.model ++ ", temperature: ".toList ++ temperature ++ ", .. \x7d".toList

end Access

structure Settings where
  access : Option Access := none
  costs : Style.Costs := {}
  boundary : Text := Style.defaultBoundary
  retry : RetryPolicy := {}
  timeout : Duration := .ofSeconds 120
  concurrency : Nat := 4
  /-- short names of models; of two with one name the first counts -/
  aliases : List (Text × Text) := []
  breakdownFolder : Path := Breakdown.defaultFolder
deriving DecidableEq

namespace Settings

/-- The most permits that can be given out at once. -/
def maxPermits : Nat := Nat.pow 2 61 - 1

/-- How many questions are asked at once. -/
def permits (s : Settings) : Nat := max 1 (min s.concurrency maxPermits)

def resolveModel (s : Settings) (model : Text) : Text := (s.aliases.lookup model).getD model

def setModel (s : Settings) (model : Text) : Settings :=
  { s with access := s.access.map fun a => { a with model := s.resolveModel model } }

/-- The settings of an environment alone. -/
def ofEnvironment (env : Environment) : Settings :=
  { access := Access.ofEnvironment? env
    timeout := .ofSeconds <|
      ((env "AIGRADE_TIMEOUT_SECS".toList).bind (Text.readNatural? (Nat.pow 2 64 - 1))).getD 120
    concurrency :=
      ((env "AIGRADE_CONCURRENCY".toList).bind (Text.readNatural? (Nat.pow 2 64 - 1))).getD 4 }

end Settings

end LabGrader
