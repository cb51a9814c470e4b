import LabGrader.Judge.Error

/-!
# Asking again

The judge is asked again after an error that may pass, a limited number of times, and after a pause
that grows with every retry and is drawn at random below a ceiling.
-/

namespace LabGrader

/-- What one question to the judge comes to. -/
inductive Attempt where
  | answered (text : Text)
  | failed (error : JudgeError)
  | panicked (message : Text)
deriving DecidableEq

structure RetryPolicy where
  /-- questions after the first one -/
  maxRetries : Nat := 3
  /-- ceiling of the first pause; it doubles with every retry -/
  baseDelay : Duration := .ofSeconds 1
  /-- limit of every pause -/
  maxDelay : Duration := .ofSeconds 30
deriving DecidableEq

namespace RetryPolicy

/-- How often the first ceiling is taken for a retry, counted from one. -/
def factor (retry : Nat) : Nat := if retry ≤ 32 then Nat.pow 2 (retry - 1) else Nat.pow 2 32 - 1

/-- The ceiling of a pause in whole milliseconds, as a number of 64 bits. -/
def ceiling (p : RetryPolicy) (retry : Nat) : Nat :=
  ((p.baseDelay.times (factor retry)).shorter p.maxDelay).milliseconds % Nat.pow 2 64

/-- The shortest pause. -/
def floor (p : RetryPolicy) (retry : Nat) : Nat := min (p.ceiling retry) 10

/-- The pause for a number drawn between zero and the ceiling, in milliseconds. -/
def pause (p : RetryPolicy) (retry draw : Nat) : Nat :=
  max (min draw (p.ceiling retry)) (p.floor retry)

/-- Whether the judge is asked again after `retries` retries. -/
def asksAgain (p : RetryPolicy) (retries : Nat) : Attempt → Bool
  | .failed e => e.isRetryable && retries < p.maxRetries
  | _ => false

end RetryPolicy

/-- A conversation with the judge: how it ends, how often the judge was asked, and the retries
before which there was a pause. -/
structure Conversation where
  result : Attempt
  calls : Nat
  pauses : List Nat
deriving DecidableEq

/-- The conversation from attempt number `k` on, of which at most `left` more follow. -/
def converseFrom (p : RetryPolicy) (attempt : Nat → Attempt) : Nat → Nat → Conversation
  | 0, k => ⟨attempt k, 1, []⟩
  | left + 1, k =>
    if p.asksAgain k (attempt k) then
      let rest := converseFrom p attempt left (k + 1)
      ⟨rest.result, rest.calls + 1, (k + 1) :: rest.pauses⟩
    else ⟨attempt k, 1, []⟩

/-- Asks until an answer, an error that does not pass, or the last retry. -/
def converse (p : RetryPolicy) (attempt : Nat → Attempt) : Conversation :=
  converseFrom p attempt p.maxRetries 0

end LabGrader
