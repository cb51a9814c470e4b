import LabGrader.Text.Basic

/-!
# Source text without comments and literals

A scan from left to right puts a space for every character of a comment or a literal, so that what
is left of the code keeps its line and column. Whichever construct opens first wins, and one that
is not closed runs to the end. `scan` and `modeAfter` follow the same steps: the first gives the
text, the second where the scan stands.
-/

namespace LabGrader.Source

inductive Mode where
  | code
  | lineComment
  | blockComment
  /-- inside quotes, `escaped` right after a backslash that is not itself escaped -/
  | literal (quote : Char) (escaped : Bool)
deriving DecidableEq

def isQuote (c : Char) : Bool := c = '"' || c = '\''

/-- Line ends stay, every other character becomes a space. -/
def blanked (c : Char) : Char := if c = '\n' ∨ c = '\r' then c else ' '

/-- The mode after a character of a literal that no backslash precedes. -/
def Mode.inLiteral (quote c : Char) : Mode :=
  if c = '\\' then .literal quote true else if c = quote then .code else .literal quote false

def scan : Mode → Text → Text
  | _, [] => []
  | .code, '/' :: '/' :: rest => ' ' :: ' ' :: scan .lineComment rest
  | .code, '/' :: '*' :: rest => ' ' :: ' ' :: scan .blockComment rest
  | .code, c :: rest =>
    if isQuote c then ' ' :: scan (.literal c false) rest else c :: scan .code rest
  | .lineComment, c :: rest =>
    blanked c :: scan (if c = '\n' then .code else .lineComment) rest
  | .blockComment, '*' :: '/' :: rest => ' ' :: ' ' :: scan .code rest
  | .blockComment, c :: rest => blanked c :: scan .blockComment rest
  | .literal quote true, c :: rest => blanked c :: scan (.literal quote false) rest
  | .literal quote false, c :: rest => blanked c :: scan (.inLiteral quote c) rest

def modeAfter : Mode → Text → Mode
  | mode, [] => mode
  | .code, '/' :: '/' :: rest => modeAfter .lineComment rest
  | .code, '/' :: '*' :: rest => modeAfter .blockComment rest
  | .code, c :: rest => modeAfter (if isQuote c then .literal c false else .code) rest
  | .lineComment, c :: rest => modeAfter (if c = '\n' then .code else .lineComment) rest
  | .blockComment, '*' :: '/' :: rest => modeAfter .code rest
  | .blockComment, _ :: rest => modeAfter .blockComment rest
  | .literal quote true, _ :: rest => modeAfter (.literal quote false) rest
  | .literal quote false, c :: rest => modeAfter (.inLiteral quote c) rest

/-- The text with its comments and literals blanked. -/
def strip (t : Text) : Text := scan .code t

end LabGrader.Source
