import LabGrader.Json.Reader
import LabGrader.Number.Decimal
import LabGrader.Text.Blank

/-!
# Answers of the judge

A judge answers in free text with three marked fields. The fields are looked for in the text
without blanks and without the characters that make text bold or a heading; each is found by the
first occurrence of its mark, whatever the others do.
-/

namespace LabGrader

structure Response where
  score : Option Text := none
  comments : Option Text := none
  confidence : Option Text := none
deriving DecidableEq

namespace Response

def scoreMark : Text := "SCORE:".toList
def commentsMark : Text := "COMMENTS:".toList
def confidenceMark : Text := "CONFIDENCE:".toList

/-- The score of an answer that holds no number, far from every score that is given. -/
def sentinel : Number := .finite (-100)

inductive Field where
  | score
  | comments
  | confidence
deriving DecidableEq

namespace Field

def opening : Field → Text
  | .score => scoreMark
  | .comments => commentsMark
  | .confidence => confidenceMark

/-- The mark that ends the field; the last one runs to the end. -/
def closing? : Field → Option Text
  | .score => some commentsMark
  | .comments => some confidenceMark
  | .confidence => none

/-- The text of the field, or the mark that is missing. -/
def find (f : Field) (t : Text) : Except Text Text :=
  match Text.cut f.opening t with
  | none => .error f.opening
  | some (_, rest) =>
    match f.closing? with
    | none => .ok rest
    | some mark =>
      match Text.cut mark rest with
      | none => .error mark
      | some (inside, _) => .ok inside

/-- A missing mark is reported at the end of the text. -/
def errorMessage (mark t : Text) : Text :=
  let line := t.count '\n' + 1
  let column := (t.reverse.takeWhile (· ≠ '\n')).length + 1
  "error at ".toList ++ Text.ofNat line ++ ':' :: Text.ofNat column ++
    ": expected one of \"".toList ++ mark ++ "\", [_]".toList

end Field

def isMarkup (c : Char) : Bool := Text.isBlank c || c = '#' || c = '*'

def clean (t : Text) : Text := t.filter fun c => !isMarkup c

def ofCleaned (t : Text) : Response :=
  { score := (Field.score.find t).toOption
    comments := (Field.comments.find t).toOption
    confidence := (Field.confidence.find t).toOption }

def parse (t : Text) : Response := ofCleaned (clean t)

def scoreText (r : Response) : Text := r.score.getD []

def commentsText (r : Response) : Text := r.comments.getD []

def confidenceText (r : Response) : Text := r.confidence.getD []

def scoreNumber? (r : Response) : Option Number :=
  r.score.bind fun t => Number.read? .binary64 t

def scoreNumber (r : Response) : Number := r.scoreNumber?.getD sentinel

def isGradable (r : Response) : Bool := r.scoreNumber?.isSome

/-- The fields while they are being read; each may be absent or `null`. -/
structure Draft where
  score : Option (Option Text) := none
  comments : Option (Option Text) := none
  confidence : Option (Option Text) := none

def reader : Json.Reader Response :=
  let value := Json.optional Json.textReader
  Json.recordReader
    [ { name := "score".toList, isSet := fun d => d.score.isSome, mayEnd := false
        read := fun d => return { d with score := some (← value) } },
      { name := "comments".toList, isSet := fun d => d.comments.isSome, mayEnd := false
        read := fun d => return { d with comments := some (← value) } },
      { name := "confidence".toList, isSet := fun d => d.confidence.isSome, mayEnd := false
        read := fun d => return { d with confidence := some (← value) } } ]
    ({} : Draft)
    fun d => some ⟨d.score.join, d.comments.join, d.confidence.join⟩

end Response

end LabGrader
