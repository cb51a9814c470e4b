import LabGrader.Assignment
import LabGrader.Text.Offset

/-!
# Questions cut at bytes

How a submission becomes a question: it is cut, and whether something has been cut off is seen from
the number of bytes. That the judge does not see all of a submission is told.
-/

namespace LabGrader.Prompt

structure Message where
  text : Text
  /-- whether it is told that the judge only sees the first part -/
  warns : Bool
deriving DecidableEq

def message? (rendered : Text) : Option Message := do
  let kept ← Text.truncate? limit rendered
  if Text.byteCount kept = Text.byteCount rendered then
    return ⟨kept, false⟩
  else
    let ended := if kept.getLast? = some '\n' then kept else kept ++ ['\n']
    return ⟨ended ++ "\x60\x60\x60".toList, true⟩

end LabGrader.Prompt
