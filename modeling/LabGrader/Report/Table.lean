import LabGrader.Record
import LabGrader.Text.Width

/-!
# The results table

A drawn table of names, scores, confidences and comments. Comments that are too wide are laid out
anew: words fill a line as long as they fit, and a word that fits on no line is split.
-/

namespace LabGrader.Report.Table

/-- The widest line of a comment. -/
def wrapWidth : Nat := 60

/-- Lines that are being filled: the finished ones, the latest first, the current one in reverse,
and its width. -/
structure Page where
  done : List Text := []
  line : Text := []
  used : Nat := 0

namespace Page

def turn (p : Page) : Page := ⟨p.line.reverse :: p.done, [], 0⟩

/-- Puts characters on the current line. -/
def put (p : Page) (t : Text) (width : Nat) : Page := ⟨p.done, t.reverse ++ p.line, p.used + width⟩

def space (p : Page) : Page := (if p.used < wrapWidth then p else p.turn).put [' '] 1

/-- A character of a word that is split takes at least one column. -/
def splitChar (p : Page) (c : Char) : Page :=
  let w := max 1 (Text.charWidth c)
  (if p.used + w ≤ wrapWidth then p else p.turn).put [c] w

def word (p : Page) (t : Text) : Page :=
  let w := Text.width t
  if p.used + w ≤ wrapWidth then p.put t w
  else if w ≤ wrapWidth then p.turn.put t w
  else t.foldl splitChar p

def lines (p : Page) : List Text := p.turn.done.reverse

end Page

def wrap (t : Text) : List Text :=
  match t.splitOn ' ' with
  | [] => [[]]
  | first :: rest => (rest.foldl (fun p w => (p.space).word w) (Page.word {} first)).lines

def widest (lines : List Text) : Nat := lines.foldl (fun n l => max n (Text.width l)) 0

def cell (t : Text) : List Text := t.splitOn '\n'

/-- The lines of a comment. Line feeds count as characters of words while words are laid out. -/
def comment (t : Text) : List Text :=
  if widest (cell t) ≤ wrapWidth then cell t
  else (wrap t).flatMap cell

def header : List (List Text) :=
  [["Name".toList], ["Score".toList], ["Confidence".toList], ["Comments".toList]]

def row (r : Record) : List (List Text) :=
  [cell r.identity, [r.score.writeHundredths], cell r.confidence, comment r.comments]

def columnWidth (rows : List (List (List Text))) (i : Nat) : Nat :=
  rows.foldl (fun n r => max n (widest (r.getD i []))) 0

def pad (width : Nat) (t : Text) : Text :=
  ' ' :: t ++ List.replicate (width - Text.width t) ' ' ++ [' ']

/-- A line between rows, with its left, middle and right joints. -/
def rule (widths : List Nat) (left middle right : Char) : Text :=
  left :: Text.joinWith [middle] (widths.map fun w => List.replicate (w + 2) '─') ++ [right]

/-- The lines of a row; a cell with fewer lines than the row is filled up with blank ones. -/
def drawRow (widths : List Nat) (cells : List (List Text)) : List Text :=
  let height := cells.foldl (fun n c => max n c.length) 0
  (List.range height).map fun i =>
    '│' :: Text.joinWith ['│'] ((widths.zip cells).map fun (w, c) => pad w (c.getD i [])) ++ ['│']

def draw (records : List Record) : List Text :=
  let rows := header :: records.map row
  let widths := (List.range 4).map (columnWidth rows)
  let body := rows.map (drawRow widths)
  rule widths '┌' '┬' '┐' :: [rule widths '├' '┼' '┤'].intercalate body ++ [rule widths '└' '┴' '┘']

end LabGrader.Report.Table
