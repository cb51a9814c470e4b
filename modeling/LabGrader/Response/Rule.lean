import LabGrader.Grammar
import LabGrader.Response

/-!
# Rules for the fields of an answer

The rules by which the fields are taken out of a cleaned answer. Each passes over everything in
front of its mark, takes what stands in front of the mark that ends it, and passes over the rest.
-/

namespace LabGrader.Response.Field

open Grammar Expression

def rule (f : Field) : Rule :=
  let front := andThen (upTo f.opening) (mark f.opening)
  match f.closing? with
  | none => ⟨front, repeated character, nothing⟩
  | some closing => ⟨front, upTo closing, andThen (mark closing) (repeated character)⟩

end LabGrader.Response.Field
