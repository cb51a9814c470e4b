import LabGrader.Number.Basic
import LabGrader.Source.Blanking
import LabGrader.Text.Blank
import LabGrader.Text.Lines

/-!
# Style rules

Two rules take points off: a brace shares its line with other code, or the first or last print is
not the required one. A rule costs so much per violation, up to a limit.
-/

namespace LabGrader.Style

def hasBrace (line : Text) : Bool := line.any fun c => c = '{' || c = '}'

/-- A line of blanked source that holds a brace and something else. -/
def isCrowded (line : Text) : Bool :=
  let line := Text.trim line
  hasBrace line && line ≠ ['{'] && line ≠ ['}']

def braceViolations (stripped : Text) : Nat := (stripped.splitOn '\n').countP isCrowded

def printCall : Text := "System.out.println(".toList

def defaultBoundary : Text := "System.out.println(\"\\n\\n\\n\");".toList

def prints (rows : List Text) : List Text :=
  (rows.map Text.trim).filter fun row => printCall.isPrefixOf row

/-- A file that prints nothing passes. -/
def boundaryViolation (rows : List Text) (required : Text) : Bool :=
  let calls := prints rows
  match calls.head?, calls.getLast? with
  | some first, some last => first ≠ Text.trim required || last ≠ Text.trim required
  | _, _ => false

structure Cost where
  per : Number
  most : Number
deriving DecidableEq

namespace Cost

def deduct (round : Rounding) (c : Cost) (count : Nat) : Number :=
  Number.least (Number.mul round (Number.ofNat round count) c.per) c.most

end Cost

structure Costs where
  braces : Cost := ⟨.finite 1, .finite 5⟩
  boundary : Cost := ⟨.finite 5, .finite 5⟩
deriving DecidableEq

structure Report where
  braceViolations : Nat := 0
  boundaryViolation : Bool := false
  braceDeduction : Number := .finite 0
  boundaryDeduction : Number := .finite 0
deriving DecidableEq

def Report.total (round : Rounding) (r : Report) : Number :=
  Number.add round r.braceDeduction r.boundaryDeduction

def analyze (round : Rounding) (text : Text) (costs : Costs) (required : Text) : Report :=
  let braces := braceViolations (Source.strip text)
  let boundary := boundaryViolation (Text.rows text) required
  { braceViolations := braces
    boundaryViolation := boundary
    braceDeduction := costs.braces.deduct round braces
    boundaryDeduction := costs.boundary.deduct round boundary.toNat }

end LabGrader.Style
