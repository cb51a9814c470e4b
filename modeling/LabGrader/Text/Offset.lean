import LabGrader.Text.Utf8

/-!
# Texts cut at bytes

A text is cut at a byte, which is found by counting characters. A cut is only possible where a
character starts or where the text ends.
-/

namespace LabGrader.Text

/-- `offsetFrom? start n t` is the byte at which the character behind the first `n` of `t` starts,
where `t` starts at the byte `start`. -/
def offsetFrom? (start : Nat) : Nat → Text → Option Nat
  | _, [] => none
  | 0, _ :: _ => some start
  | n + 1, c :: t => offsetFrom? (start + c.utf8Size) n t

def offset? (n : Nat) (t : Text) : Option Nat := offsetFrom? 0 n t

/-- `frontFrom? seen k t` is `front? k t` behind `seen`, which is reversed. -/
def frontFrom? (seen : Text) : Nat → Text → Option Text
  | 0, _ => some seen.reverse
  | _ + 1, [] => none
  | k + 1, c :: t =>
    if c.utf8Size ≤ k + 1 then frontFrom? (c :: seen) (k + 1 - c.utf8Size) t else none

/-- The first `k` bytes as a text, unless they end inside of a character. -/
def front? (k : Nat) (t : Text) : Option Text := frontFrom? [] k t

/-- The text without what comes after its first `n` characters. -/
def truncate? (n : Nat) (t : Text) : Option Text :=
  match offset? n t with
  | none => some t
  | some k => front? k t

end LabGrader.Text
