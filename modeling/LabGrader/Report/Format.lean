import LabGrader.Record

/-!
# Report formats

The results of a run are written as delimited rows or as JSON. A field that holds the delimiter, a
quote or a line break is quoted, and a quote inside it is written twice.
-/

namespace LabGrader.Report

inductive Format where
  | csv
  | tsv
  | json
deriving DecidableEq

namespace Format

/-- The format with this name, in any case of the letters. -/
def ofName? (name : Text) : Option Format :=
  let name := Text.lowercase name
  if name = "csv".toList then some .csv
  else if name = "tsv".toList then some .tsv
  else if name = "json".toList then some .json
  else none

/-- The extension decides; anything unknown is comma separated. -/
def ofPath (p : Path) : Format := (p.extension?.bind ofName?).getD .csv

end Format

def mustQuote (delimiter : Char) (c : Char) : Bool :=
  c = delimiter || c = '"' || c = '\n' || c = '\r'

def quoteField (delimiter : Char) (field : Text) : Text :=
  if field.any (mustQuote delimiter) then
    '"' :: field.flatMap (fun c => if c = '"' then ['"', '"'] else [c]) ++ ['"']
  else field

def header : List Text :=
  ["Name".toList, "Score".toList, "Confidence".toList, "Comments".toList]

def scoreText (x : Number) : Text := x.write .plain .binary64

/-- The fields of a record, as they stand in a row once they are quoted. -/
def row (delimiter : Char) (r : Record) : List Text :=
  [quoteField delimiter r.identity, scoreText r.score, quoteField delimiter r.confidence,
    quoteField delimiter r.comments]

/-- A header row and one row per record, each ended by a line feed. -/
def delimited (delimiter : Char) (records : List Record) : Text :=
  (header :: records.map (row delimiter)).flatMap fun fields =>
    Text.joinWith [delimiter] fields ++ ['\n']

def render (format : Format) (records : List Record) : Text :=
  match format with
  | .csv => delimited ',' records
  | .tsv => delimited '\t' records
  | .json => (Json.Value.list (records.map Record.toJson)).pretty

end LabGrader.Report
