import LabGrader.Text.Basic

/-!
# Lines

A line runs to a line feed. `rows` keeps the line feeds, so that the rows of a text make it up;
`lines` drops each line feed together with a carriage return before it.
-/

namespace LabGrader.Text

/-- `rowsFrom seen t` is `rows t` with `seen`, reversed, in front of the first row. -/
def rowsFrom (seen : Text) : Text → List Text
  | [] => if seen.isEmpty then [] else [seen.reverse]
  | c :: rest =>
    if c = '\n' then (c :: seen).reverse :: rowsFrom [] rest else rowsFrom (c :: seen) rest

/-- The lines with their line feeds; only the last may lack one, and none is empty. -/
def rows (t : Text) : List Text := rowsFrom [] t

/-- A row without its line feed and without a carriage return before that. -/
def chomp (row : Text) : Text :=
  match dropSuffix? ['\n'] row with
  | none => row
  | some line => (dropSuffix? ['\r'] line).getD line

def lines (t : Text) : List Text := (rows t).map chomp

theorem flatten_rowsFrom (seen t : Text) : (rowsFrom seen t).flatten = seen.reverse ++ t := by
  induction t generalizing seen with
  | nil => cases seen <;> simp [rowsFrom]
  | cons c rest ih =>
    simp only [rowsFrom]
    split <;> simp [ih]

theorem flatten_rows (t : Text) : (rows t).flatten = t := flatten_rowsFrom [] t

end LabGrader.Text
