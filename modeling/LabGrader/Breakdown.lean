import LabGrader.Path
import LabGrader.Text.Blank

/-!
# Names of breakdown files

The full answer of the judge about a submission goes into a file named after its author. When that
name is taken, the stem of the submission's file is added to it, and then a number.
-/

namespace LabGrader.Breakdown

def suffix : Text := "-GradingBreakdown.txt".toList

def defaultFolder : Path := .ofString "GradingBreakdowns"

def stemOf (p : Path) : Text := p.stem?.getD "submission".toList

/-- The name of the author without blanks, or the file's stem if there is none. -/
def plainName (identity : Text) (p : Path) : Text :=
  let author := Text.dense identity
  (if author.isEmpty then stemOf p else author) ++ suffix

/-- Drops a suffix from the end as often as it stands there, at most `fuel` times. -/
def dropSuffixes (suffix : Text) : Nat → Text → Text
  | 0, t => t
  | fuel + 1, t =>
    match Text.dropSuffix? suffix t with
    | some rest => dropSuffixes suffix fuel rest
    | none => t

/-- The names to try when the plain one is taken, by number. The number has no bound here; a counter
of 32 bits with a sign counts alike as long as fewer than `2 ^ 31 - 1` names are taken. -/
def candidate (base : Text) (n : Nat) : Text :=
  if n = 0 then base ++ suffix else base ++ '-' :: Text.ofNat (n + 1) ++ suffix

/-- The first candidate that is not taken. Candidates differ from each other, so one more of them
than there are taken names is enough. -/
def firstFree (taken : List Text) (base : Text) : Text :=
  let candidates := (List.range (taken.length + 1)).map (candidate base)
  (candidates.find? fun name => !taken.contains name).getD (candidate base taken.length)

def claim (taken : List Text) (identity : Text) (p : Path) : Text × List Text :=
  let plain := plainName identity p
  let name :=
    if taken.contains plain then
      firstFree taken (dropSuffixes suffix plain.length plain ++ '-' :: stemOf p)
    else plain
  (name, name :: taken)

def claimAll (taken : List Text) : List (Text × Path) → List Text
  | [] => []
  | (identity, p) :: rest =>
    let (name, taken) := claim taken identity p
    name :: claimAll taken rest

end LabGrader.Breakdown
