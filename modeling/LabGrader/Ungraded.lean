import LabGrader.Json.Value
import LabGrader.Path

/-!
# Submissions that could not be graded

A submission that fails does not stop the others. It is listed with its author, as far as the file
could be read, and with the reason.
-/

namespace LabGrader

structure Ungraded where
  path : Path
  identity : Option Text
  reason : Text
deriving DecidableEq

namespace Ungraded

/-- Author, path and reason; an author without a name is left out. -/
def line (u : Ungraded) : Text :=
  let rest := ": ".toList ++ u.reason
  match u.identity with
  | some (c :: name) => c :: name ++ " (".toList ++ u.path.text ++ [')'] ++ rest
  | _ => u.path.text ++ rest

/-- A text in a terminal colour. -/
def painted (colored : Bool) (code : String) (t : Text) : Text :=
  if colored then '\x1b' :: '[' :: code.toList ++ 'm' :: t ++ "\x1b[0m".toList else t

/-- The list for the terminal; nothing if nothing failed. -/
def summary (colored : Bool) (failures : List Ungraded) : Text :=
  if failures.isEmpty then []
  else
    let heading := Text.ofNat failures.length ++ " submission(s) could not be graded:".toList
    painted colored "1;31" heading ++ '\n' :: failures.flatMap fun u =>
      "  - ".toList ++ painted colored "33" u.line ++ ['\n']

def toJson (u : Ungraded) : Json.Value :=
  .object
    [("path".toList, .text u.path.text),
      ("identity".toList, (u.identity.map Json.Value.text).getD .null),
      ("error".toList, .text u.reason)]

end Ungraded

end LabGrader
