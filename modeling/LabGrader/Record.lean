import LabGrader.Json.Value
import LabGrader.Path
import LabGrader.Response
import LabGrader.Style

/-!
# Records

A record is one graded submission: what the judge gave, less what the style rules take off.
-/

namespace LabGrader

/-- The final score. Nothing bounds it, so that a sentinel stays far from every other score. -/
def aggregate (round : Rounding) (modelScore deductions : Number) : Number :=
  Number.sub round modelScore deductions

structure Record where
  identity : Text
  score : Number
  confidence : Text
  comments : Text
  modelScore : Option Number := none
  deductions : Option Number := none
  path : Option Path := none
deriving DecidableEq

namespace Record

def ofParts (round : Rounding) (identity : Text) (response : Response) (style : Style.Report)
    (path : Option Path) : Record :=
  { identity
    score := aggregate round response.scoreNumber (style.total round)
    confidence := response.confidenceText
    comments := response.commentsText
    modelScore := some response.scoreNumber
    deductions := some (style.total round)
    path }

structure Draft where
  identity : Option Text := none
  score : Option Number := none
  confidence : Option Text := none
  comments : Option Text := none
  modelScore : Option (Option Number) := none
  deductions : Option (Option Number) := none

def Draft.finish (d : Draft) : Option Record := do
  return {
    identity := ← d.identity
    score := ← d.score
    confidence := ← d.confidence
    comments := ← d.comments
    modelScore := d.modelScore.join
    deductions := d.deductions.join }

/-- A field of a draft; `get` and `put` say where it is kept. -/
def field {α : Type} (name : String) (mayEnd : Bool) (reader : Json.Reader α)
    (get : Draft → Option α) (put : Draft → Option α → Draft) : Json.Field Draft where
  name := name.toList
  isSet d := (get d).isSome
  read d := return put d (some (← reader))
  mayEnd := mayEnd

def fields : List (Json.Field Draft) :=
  let text := Json.textReader
  let number := Json.numberReader .binary64
  [ field "Name" false text (·.identity) fun d x => { d with identity := x },
    field "Score" false number (·.score) fun d x => { d with score := x },
    field "Confidence" false text (·.confidence) fun d x => { d with confidence := x },
    field "Comments" false text (·.comments) fun d x => { d with comments := x },
    field "model_score" true (Json.optional number) (·.modelScore)
      fun d x => { d with modelScore := x },
    field "deductions" true (Json.optional number) (·.deductions)
      fun d x => { d with deductions := x } ]

def reader : Json.Reader Record := Json.recordReader fields ({} : Draft) Draft.finish

def listReader : Json.Reader (List Record) := Json.listReader reader

def optionalMember (key : String) (x : Option Number) : List (Text × Json.Value) :=
  match x with
  | none => []
  | some x => [(key.toList, .ofNumber .binary64 x)]

def members (r : Record) : List (Text × Json.Value) :=
  [("Name".toList, .text r.identity), ("Score".toList, .ofNumber .binary64 r.score),
    ("Confidence".toList, .text r.confidence), ("Comments".toList, .text r.comments)] ++
  optionalMember "model_score" r.modelScore ++ optionalMember "deductions" r.deductions

def toJson (r : Record) : Json.Value := .object r.members

end Record

end LabGrader
