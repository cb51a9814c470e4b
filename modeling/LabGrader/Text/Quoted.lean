import LabGrader.Text.Basic
import LabGrader.Text.Printable

/-!
# Quoted texts in diagnostics

A text between quotes, with escapes for what would not be seen.
-/

namespace LabGrader.Text

def hex (n : Nat) : Text := Nat.toDigits 16 n

def escapeSeen (c : Char) : Text :=
  if c = '\x00' then ['\\', '0']
  else if c = '\t' then ['\\', 't']
  else if c = '\r' then ['\\', 'r']
  else if c = '\n' then ['\\', 'n']
  else if c = '"' ∨ c = '\\' then ['\\', c]
  else if isPrintable c then [c]
  else '\\' :: 'u' :: '{' :: hex c.toNat ++ ['}']

def quoted (t : Text) : Text := '"' :: t.flatMap escapeSeen ++ ['"']

end LabGrader.Text
