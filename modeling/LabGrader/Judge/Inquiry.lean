import LabGrader.Judge.Script

/-!
# Inquiries

An inquiry puts one question to the judge, again and again until it has an answer or gives up. It
counts its retries in 32 bits, does not wait for an attempt longer than its limit, and pauses before
every retry. What it does is kept in a log.
-/

namespace LabGrader

/-- What the judge is told about its task, and what it has to judge. -/
structure Question where
  instructions : Text
  prompt : Text
deriving DecidableEq

structure Inquiry where
  question : Question
  policy : RetryPolicy
  /-- the time that an attempt has -/
  limit : Duration
  /-- what the judge does when it is asked for the n-th time, counted from zero -/
  judge : Nat → Question → Turn
  /-- the number that is drawn for the pause before a retry -/
  draw : Nat → Nat
  fits : policy.maxRetries < Nat.pow 2 32

namespace Inquiry

inductive Deed where
  | asked (question : Question)
  | paused (milliseconds : Nat)
deriving DecidableEq

def Deed.isAsked : Deed → Bool
  | .asked _ => true
  | .paused _ => false

structure Progress where
  retries : UInt32 := 0
  log : List Deed := []
deriving DecidableEq

def Progress.calls (p : Progress) : Nat := p.log.countP Deed.isAsked

inductive Standing where
  | going (progress : Progress)
  | ended (log : List Deed) (result : Attempt)
deriving DecidableEq

def attempt (i : Inquiry) (n : Nat) : Attempt := ((i.judge n i.question).under i.limit 0).1

/-- One time around the loop: a question, and a pause if it has to be asked again. -/
def round (i : Inquiry) (p : Progress) : Standing :=
  let a := i.attempt p.calls
  let log := p.log ++ [.asked i.question]
  if i.policy.asksAgain p.retries.toNat a then
    let retry := p.retries + 1
    .going ⟨retry, log ++ [.paused (i.policy.pause retry.toNat (i.draw retry.toNat))]⟩
  else .ended log a

/-- How the inquiry stands after a number of rounds. Its end is for good. -/
def standing (i : Inquiry) : Nat → Standing
  | 0 => .going {}
  | n + 1 =>
    match i.standing n with
    | .going p => i.round p
    | .ended log a => .ended log a

end Inquiry

end LabGrader
