import LabGrader.Batch.Loop
import LabGrader.Judge.Retry

/-!
# Log lines

A run tells on the way what it does. A line names its weight, the part of the program that speaks,
and what happened.
-/

namespace LabGrader.CommandLine.Log

inductive Weight where
  | detail
  | note
  | warning
deriving DecidableEq

def Weight.text : Weight → Text
  | .detail => "DEBUG ".toList
  | .note => " INFO ".toList
  | .warning => " WARN ".toList

structure Line where
  weight : Weight
  speaker : String
  message : Text
deriving DecidableEq

def Line.text (l : Line) : Text :=
  l.weight.text ++ l.speaker.toList ++ ": ".toList ++ l.message

def Line.isShown (verbose : Bool) (l : Line) : Bool := verbose || l.weight ≠ .detail

def assignmentLoaded (name : Text) : Line :=
  ⟨.note, "aigrade::grade", "Loaded assignment \x60".toList ++ name ++ ['\x60']⟩

def modelUsed (model : Text) : Line :=
  ⟨.note, "aigrade::grade", "Using model \x60".toList ++ model ++ ['\x60']⟩

def batchSpeaker : String := "aigrade::grade::batch"

def batchBegun (submissions permits : Nat) : Line :=
  ⟨.note, batchSpeaker,
    "Grading ".toList ++ Text.ofNat submissions ++ " submission(s), ".toList ++
      Text.ofNat permits ++ " at a time".toList⟩

def skipped (u : Ungraded) : Line := ⟨.warning, batchSpeaker, "Skipping ".toList ++ u.line⟩

def styleChecked (p : Path) (r : Style.Report) : Line :=
  let violation := if r.boundaryViolation then "true".toList else "false".toList
  ⟨.detail, "aigrade::java::style",
    p.text ++ ": ".toList ++ Text.ofNat r.braceViolations ++
      " brace violation(s), boundary violation: ".toList ++ violation ++ ", deduction ".toList ++
      (r.total BinaryFormat.binary64.round).writeHundredths⟩

def promptCut (p : Path) : Line :=
  ⟨.warning, "aigrade::grade::assignment",
    p.text ++ ": submission is longer than ".toList ++ Text.ofNat Prompt.limit ++
      " characters, the judge only sees the first part".toList⟩

/-- A pause is told with what came before it; here it is the longest one. -/
def askedAgain (policy : RetryPolicy) (e : JudgeError) (retry : Nat) : Line :=
  ⟨.warning, "aigrade::grade::judge",
    "retrying judge request error=".toList ++ e.message ++ " retry=".toList ++ Text.ofNat retry ++
      " max_retries=".toList ++ Text.ofNat policy.maxRetries ++ " backoff_ms=".toList ++
      Text.ofNat (policy.pause retry (policy.ceiling retry))⟩

def noScore (p : Path) (r : Response) : Line :=
  ⟨.warning, batchSpeaker,
    p.text ++ ": the judge gave no usable score (".toList ++ Text.quoted r.scoreText ++
      "), recording the sentinel for manual review".toList⟩

def graded (p : Path) (r : Record) : Line :=
  ⟨.note, batchSpeaker,
    "Graded ".toList ++ r.identity ++ " (".toList ++ p.text ++ "): ".toList ++
      r.score.writeHundredths⟩

def batchEnded (o : Batch.Outcome) : Line :=
  ⟨.note, batchSpeaker,
    "Graded ".toList ++ Text.ofNat o.records.length ++ " submission(s), skipped ".toList ++
      Text.ofNat o.failures.length⟩

/-- What is told about the attempts before the last one. -/
def retries (policy : RetryPolicy) (attempt : Nat → Attempt) (c : Conversation) : List Line :=
  c.pauses.filterMap fun retry =>
    match attempt (retry - 1) with
    | .failed e => some (askedAgain policy e retry)
    | _ => none

/-- What is told about a task, given how its conversation went and what came of it. -/
def task (settings : Settings) (t : Batch.Task) (attempt : Nat → Attempt) (c : Conversation)
    (result : Batch.Result) : List Line :=
  let s := t.submission
  let cut := decide (Prompt.limit < (Submission.normalize s.text).render.length)
  [styleChecked s.path (s.styleReport settings)] ++ (if cut then [promptCut s.path] else []) ++
    retries settings.retry attempt c ++
    match c.result, result with
    | .answered answer, .graded r =>
      let response := Response.parse answer
      (if response.isGradable then [] else [noScore s.path response]) ++ [graded s.path r]
    | _, .failed u => [skipped u]
    | _, _ => []

end LabGrader.CommandLine.Log
