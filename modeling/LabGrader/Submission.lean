import LabGrader.Path
import LabGrader.Text.Alphanumeric
import LabGrader.Text.Blank
import LabGrader.Text.Lines

/-!
# Submissions

A submission is a source file. Its first lines say who wrote it; the code starts at the first line
that imports something or declares a public class.
-/

namespace LabGrader

structure Submission where
  path : Path
  text : Text
deriving DecidableEq

namespace Submission

def codeMarks : List Text := ["import".toList, "public class".toList]

def startsCode (row : Text) : Bool := codeMarks.any fun mark => mark.isPrefixOf (Text.trim row)

/-- The number of rows before the code. -/
def codeStart (rows : List Text) : Nat := rows.findIdx startsCode

def isWord (c : Char) : Bool := Text.isAlphanumeric c || c = '_'

/-- The words of the first row that is not blank. -/
def identityOf (rows : List Text) : Text :=
  match (rows.map Text.trim).find? fun row => !row.isEmpty with
  | none => []
  | some row => Text.trim (row.filter fun c => isWord c || Text.isBlank c)

/-- Drops the slashes of a line comment and one blank after them. -/
def dropSlashes (line : Text) : Text :=
  let trimmed := Text.trimStart line
  if "//".toList.isPrefixOf trimmed then Text.dropBlank (trimmed.dropWhile (· = '/')) else line

/-- Drops the star of a continued comment and one blank after it. -/
def dropStar (line : Text) : Text :=
  match Text.trimStart line with
  | '*' :: rest => Text.dropBlank rest
  | _ => line

def cleanLine (line : Text) : Text :=
  dropStar (Text.erasePair '*' '/' (Text.erasePair '/' '*' (dropSlashes line)))

/-- The lines without comment marks, blank ones left out. -/
def cleanHeader (header : Text) : Text :=
  let kept := ((Text.lines header).map cleanLine).filter fun line => !(Text.trim line).isEmpty
  Text.trim (Text.joinWith ['\n'] kept)

/-- A submission taken apart: who wrote it, the lines before the code, and the code. -/
structure Parts where
  identity : Text
  header : Text
  code : Text
deriving DecidableEq

def normalize (text : Text) : Parts :=
  let rows := Text.rows text
  let start := codeStart rows
  ⟨identityOf rows, cleanHeader (rows.take start).flatten, (rows.drop start).flatten⟩

/-- Header and code under labels, the code in a fence. -/
def Parts.render (p : Parts) : Text :=
  "**HEADER:**\n".toList ++ p.header ++ "\n\n**CODE:**\n\x60\x60\x60java\n".toList ++ p.code ++
    "\x60\x60\x60".toList

end Submission

end LabGrader
