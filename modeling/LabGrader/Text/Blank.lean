import LabGrader.Text.Basic

/-!
# Blank characters

The characters of Unicode with the property White_Space, and texts freed of them at their ends.
-/

namespace LabGrader.Text

def isBlank (c : Char) : Bool :=
  let n := c.toNat
  n = 32 || (9 ≤ n && n ≤ 13) || n = 0x85 || n = 0xA0 || n = 0x1680 ||
    (0x2000 ≤ n && n ≤ 0x200A) || n = 0x2028 || n = 0x2029 || n = 0x202F || n = 0x205F || n = 0x3000

def trimStart (t : Text) : Text := t.dropWhile isBlank

def trimEnd (t : Text) : Text := (t.reverse.dropWhile isBlank).reverse

def trim (t : Text) : Text := trimEnd (trimStart t)

/-- The characters that are not blank. -/
def dense (t : Text) : Text := t.filter fun c => !isBlank c

/-- Drops one leading blank character, if there is one. -/
def dropBlank : Text → Text
  | [] => []
  | c :: rest => if isBlank c then rest else c :: rest

end LabGrader.Text
