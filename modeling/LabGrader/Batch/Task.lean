import LabGrader.Assignment
import LabGrader.Breakdown
import LabGrader.Error
import LabGrader.Record
import LabGrader.Settings.Basic
import LabGrader.Submission
import LabGrader.Ungraded

/-!
# Tasks of a batch

Before the judge is asked anything, every submission is read and the name of its breakdown file is
claimed, in the order of the submissions. A submission that cannot be read takes no name.
-/

namespace LabGrader

/-- Reads a submission; what is no character becomes a replacement character. -/
def Submission.read (d : Folder) (p : Path) : Except GradingError Submission :=
  match d.read p with
  | .error cause => .error (.submissionUnreadable p cause)
  | .ok content => .ok ⟨p, Text.ofUtf8Lossy content⟩

namespace Submission

def identity (s : Submission) : Text := (normalize s.text).identity

def prompt (s : Submission) : Text := Prompt.user (normalize s.text).render

def styleReport (s : Submission) (settings : Settings) : Style.Report :=
  Style.analyze BinaryFormat.binary64.round s.text settings.costs settings.boundary

def record (s : Submission) (settings : Settings) (answer : Text) : Record :=
  Record.ofParts BinaryFormat.binary64.round s.identity (Response.parse answer)
    (s.styleReport settings) (some s.path)

end Submission

namespace Batch

/-- A submission to be graded and the name under which the judge's answer is kept. -/
structure Task where
  submission : Submission
  breakdown : Text
deriving DecidableEq

namespace Task

def failed (t : Task) (reason : Text) : Ungraded :=
  ⟨t.submission.path, some t.submission.identity, reason⟩

/-- A failure that says nothing about the author. -/
def lost (t : Task) (reason : Text) : Ungraded := ⟨t.submission.path, none, reason⟩

def file (t : Task) (settings : Settings) : Path := settings.breakdownFolder.join t.breakdown

end Task

/-- The reason of a task that broke off. -/
def panicReason (message : Text) : Text :=
  "task # panicked with message ".toList ++ Text.quoted message

/-- What is to be done, and the submissions for which nothing can be done. -/
structure Plan where
  tasks : List Task := []
  unread : List Ungraded := []
deriving DecidableEq

namespace Plan

/-- Tasks for paths, with the names that are taken by earlier ones. -/
def ofPathsFrom (d : Folder) (taken : List Text) : List Path → Plan
  | [] => {}
  | p :: rest =>
    match Submission.read d p with
    | .error e =>
      let plan := ofPathsFrom d taken rest
      { plan with unread := ⟨p, none, e.message⟩ :: plan.unread }
    | .ok s =>
      let (name, taken) := Breakdown.claim taken s.identity p
      let plan := ofPathsFrom d taken rest
      { plan with tasks := ⟨s, name⟩ :: plan.tasks }

def ofPaths (d : Folder) (paths : List Path) : Plan := ofPathsFrom d [] paths

end Plan

/-- What a batch comes to: a record or a failure for every submission. -/
structure Outcome where
  records : List Record
  failures : List Ungraded
deriving DecidableEq

inductive Result where
  | graded (record : Record)
  | failed (failure : Ungraded)
deriving DecidableEq

namespace Result

def record? : Result → Option Record
  | .graded r => some r
  | .failed _ => none

def failure? : Result → Option Ungraded
  | .graded _ => none
  | .failed u => some u

end Result

namespace Outcome

/-- Records by author, equal authors in the order of the submissions; failures in that order, those
that could not be read first. -/
def ofResults (unread : List Ungraded) (results : List Result) : Outcome :=
  { records := (results.filterMap Result.record?).mergeSort fun r s =>
      (Text.order r.identity s.identity).isLE
    failures := unread ++ results.filterMap Result.failure? }

end Outcome

end Batch

end LabGrader
