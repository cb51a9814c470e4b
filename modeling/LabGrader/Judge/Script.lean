import LabGrader.Judge.Retry

/-!
# Scripted judges

A scripted judge says beforehand what it will do and how long that takes, so that a run can be
rehearsed on a clock that only exists on paper. Times are whole milliseconds.
-/

namespace LabGrader

/-- One turn of a scripted judge; without a reply it never answers. -/
structure Turn where
  delay : Nat := 0
  reply : Option Attempt
deriving DecidableEq

namespace Turn

/-- The turn of a judge that has nothing to say. -/
def excuse (reason : Text) : Turn := { reply := some (.failed (.other reason)) }

/-- How long a limit lasts; a millisecond that has begun counts. -/
def patience (limit : Duration) : Nat := (limit.nanoseconds + 999999) / 1000000

/-- What a turn comes to under a limit, and when. A reply at the very limit is in time. -/
def under (limit : Duration) (hold : Nat) (turn : Turn) : Attempt × Nat :=
  match turn.reply with
  | none => (.failed (.timeout limit), patience limit)
  | some a =>
    if hold + turn.delay ≤ patience limit then (a, hold + turn.delay)
    else (.failed (.timeout limit), patience limit)

end Turn

/-- The turns of a judge in order; the last one is repeated. -/
abbrev Script := List Turn

namespace Script

def turn (script : Script) (n : Nat) : Turn :=
  (script[n]?.or script.getLast?).getD (Turn.excuse "no outcome".toList)

def attempt (script : Script) (limit : Duration) (hold n : Nat) : Attempt :=
  ((script.turn n).under limit hold).1

/-- How long a conversation takes if every pause is the longest one. -/
def elapsed (script : Script) (limit : Duration) (hold : Nat) (p : RetryPolicy)
    (c : Conversation) : Nat :=
  let calls := (List.range c.calls).map fun n => ((script.turn n).under limit hold).2
  let pauses := c.pauses.map fun retry => p.pause retry (p.ceiling retry)
  (calls ++ pauses).foldl (· + ·) 0

end Script

/-- Scripts by what a prompt contains; the first that fits counts. -/
structure Casting where
  roles : List (Text × Script)

def Casting.turn (c : Casting) (prompt : Text) (n : Nat) : Turn :=
  match c.roles.find? fun role => prompt.contains role.1 with
  | none => Turn.excuse "no rule".toList
  | some role => Script.turn role.2 n

end LabGrader
