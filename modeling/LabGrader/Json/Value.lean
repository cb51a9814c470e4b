import LabGrader.Number.Style
import LabGrader.Text.Basic

/-!
# Writing JSON texts

Values as trees, written on one line or with two blanks of indentation per level.
-/

namespace LabGrader.Json

inductive Value where
  | null
  | flag (b : Bool)
  | numeral (digits : Text)
  | text (t : Text)
  | list (items : List Value)
  | object (members : List (Text × Value))

/-- A number without a decimal form becomes `null`. -/
def Value.ofNumber (f : BinaryFormat) (x : Number) : Value :=
  if x.isFinite then .numeral (x.write .json f) else .null

def Value.ofNat (n : Nat) : Value := .numeral (Text.ofNat n)

def hexDigit (n : Nat) : Char := (Nat.digitChar n)

/-- Quotes, backslashes and control characters are escaped, by a letter if they have one. -/
def escape (c : Char) : Text :=
  if c = '"' then ['\\', '"']
  else if c = '\\' then ['\\', '\\']
  else if c = '\x08' then ['\\', 'b']
  else if c = '\x0c' then ['\\', 'f']
  else if c = '\n' then ['\\', 'n']
  else if c = '\r' then ['\\', 'r']
  else if c = '\t' then ['\\', 't']
  else if c.toNat < 0x20 then
    ['\\', 'u', '0', '0', hexDigit (c.toNat / 16), hexDigit (c.toNat % 16)]
  else [c]

def quoted (t : Text) : Text := '"' :: t.flatMap escape ++ ['"']

/-- What stands before an item: a comma after an earlier one, and a new line if the text is laid
out in lines. -/
def lead (first : Bool) (layout : Option Nat) : Text :=
  (if first then [] else [',']) ++
    match layout with
    | none => []
    | some depth => '\n' :: List.replicate (2 * depth) ' '

mutual

/-- The text of a value at a depth of nesting, or on one line if there is no depth. -/
def Value.write (layout : Option Nat) : Value → Text
  | .null => "null".toList
  | .flag b => if b then "true".toList else "false".toList
  | .numeral digits => digits
  | .text t => quoted t
  | .list [] => "[]".toList
  | .list (x :: xs) =>
    '[' :: writeItems (layout.map (· + 1)) true (x :: xs) ++ lead true layout ++ [']']
  | .object [] => "\x7b\x7d".toList
  | .object (x :: xs) =>
    '{' :: writeMembers (layout.map (· + 1)) true (x :: xs) ++ lead true layout ++ ['}']

def writeItems (layout : Option Nat) (first : Bool) : List Value → Text
  | [] => []
  | x :: xs => lead first layout ++ x.write layout ++ writeItems layout false xs

def writeMembers (layout : Option Nat) (first : Bool) : List (Text × Value) → Text
  | [] => []
  | (key, x) :: xs =>
    lead first layout ++ quoted key ++ (if layout.isSome then ": ".toList else [':']) ++
      x.write layout ++ writeMembers layout false xs

end

def Value.compact (x : Value) : Text := x.write none

def Value.pretty (x : Value) : Text := x.write (some 0)

end LabGrader.Json
