import LabGrader.Text.Basic

/-!
# Bytes of texts

Reading bytes goes through a machine with one state per place inside a character. It gives one
unit per character, and one empty unit per maximal run of bytes that starts a character and does
not finish it.
-/

namespace LabGrader

abbrev Bytes := List UInt8

namespace Text

def utf8 (t : Text) : Bytes := t.flatMap String.utf8EncodeChar

/-- The number of bytes of the text. -/
def byteCount (t : Text) : Nat := t.foldl (fun n c => n + c.utf8Size) 0

namespace Utf8

/-- Inside a character: its code point so far, how many bytes are missing, and the bounds of the
next byte. -/
structure Partial where
  code : Nat
  missing : Nat
  lowest : Nat
  highest : Nat

abbrev Place := Option Partial

/-- A byte where a character starts. -/
def start (b : Nat) : List (Option Char) × Place :=
  if b < 0x80 then ([some (Char.ofNat b)], none)
  else if 0xC2 ≤ b ∧ b ≤ 0xDF then ([], some ⟨b - 0xC0, 1, 0x80, 0xBF⟩)
  else if 0xE0 ≤ b ∧ b ≤ 0xEF then
    ([], some ⟨b - 0xE0, 2, if b = 0xE0 then 0xA0 else 0x80, if b = 0xED then 0x9F else 0xBF⟩)
  else if 0xF0 ≤ b ∧ b ≤ 0xF4 then
    ([], some ⟨b - 0xF0, 3, if b = 0xF0 then 0x90 else 0x80, if b = 0xF4 then 0x8F else 0xBF⟩)
  else ([none], none)

def step (place : Place) (b : Nat) : List (Option Char) × Place :=
  match place with
  | none => start b
  | some p =>
    if p.lowest ≤ b ∧ b ≤ p.highest then
      let code := p.code * 64 + (b - 0x80)
      if p.missing ≤ 1 then ([some (Char.ofNat code)], none)
      else ([], some ⟨code, p.missing - 1, 0x80, 0xBF⟩)
    else
      let (units, next) := start b
      (none :: units, next)

/-- Takes one more byte, the latest unit first. -/
def push (s : List (Option Char) × Place) (b : UInt8) : List (Option Char) × Place :=
  ((step s.2 b.toNat).1.reverse ++ s.1, (step s.2 b.toNat).2)

def units (bytes : Bytes) : List (Option Char) :=
  let s := bytes.foldl push ([], none)
  (if s.2.isSome then none :: s.1 else s.1).reverse

end Utf8

/-- Every empty unit becomes a replacement character. -/
def ofUtf8Lossy (bytes : Bytes) : Text := (Utf8.units bytes).map fun u => u.getD '\uFFFD'

/-- The text, if all bytes belong to characters. -/
def ofUtf8? (bytes : Bytes) : Option Text :=
  let units := Utf8.units bytes
  if units.all Option.isSome then some (units.filterMap id) else none

end Text

end LabGrader
