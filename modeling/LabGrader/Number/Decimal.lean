import LabGrader.Number.Binary
import LabGrader.Text.Basic

/-!
# Decimal text of numbers

A decimal is a whole number of units of a power of ten. Reading a text gives a decimal, an infinity
or no number; the decimal then becomes the nearest number of a format.
-/

namespace LabGrader

/-- `(-1)^negative · digits · 10^exponent`. -/
structure Decimal where
  negative : Bool
  digits : Nat
  exponent : Int
deriving DecidableEq

namespace Decimal

def magnitude (d : Decimal) : Rat := d.digits * (10 : Rat) ^ d.exponent

/-- The nearest number. Ten exceeds eight, so the digit count alone settles what lies far outside
the format. -/
def toNumber (f : BinaryFormat) (d : Decimal) : Number :=
  if d.digits = 0 then .zero d.negative
  else
    let top := (Text.ofNat d.digits).length + d.exponent
    if f.ceilingExponent ≤ 3 * (top - 1) then .infinite d.negative
    else if 3 * top < f.leastExponent - 1 then .zero d.negative
    else
      let x := f.round d.magnitude
      if d.negative then x.negate else x

/-- The value of a row of decimal digits. -/
def valueOf (digits : Text) : Nat :=
  digits.foldl (fun n c => 10 * n + (c.toNat - '0'.toNat)) 0

end Decimal

namespace Number

/-- The digits at the front, and what follows them. -/
def spanDigits (t : Text) : Text × Text := (t.takeWhile Char.isDigit, t.dropWhile Char.isDigit)

/-- A sign at the front, and what follows it. -/
def takeSign : Text → Bool × Text
  | '-' :: rest => (true, rest)
  | '+' :: rest => (false, rest)
  | t => (false, t)

/-- An exponent mark with at least one digit, or nothing at all. -/
def readExponent? : Text → Option Int
  | [] => some 0
  | c :: rest =>
    if c = 'e' ∨ c = 'E' then
      let (negative, digits) := takeSign rest
      if digits.isEmpty || !digits.all Char.isDigit then none
      else some (if negative then -(Decimal.valueOf digits : Int) else Decimal.valueOf digits)
    else none

/-- A point may stand anywhere among the digits, of which there is at least one. -/
def readDecimal? (negative : Bool) (t : Text) : Option Decimal :=
  let (whole, rest) := spanDigits t
  let (places, rest) := match rest with
    | '.' :: rest => spanDigits rest
    | rest => ([], rest)
  if whole.isEmpty && places.isEmpty then none
  else (readExponent? rest).map fun e =>
    ⟨negative, Decimal.valueOf (whole ++ places), e - places.length⟩

/-- Reads a number as written without blanks: a decimal, `inf`, `infinity` or `nan`, in any case of
the letters, with an optional sign. -/
def read? (f : BinaryFormat) (t : Text) : Option Number :=
  let (negative, rest) := takeSign t
  let word := Text.lowercase rest
  if word = "inf".toList ∨ word = "infinity".toList then some (.infinite negative)
  else if word = "nan".toList then some .nan
  else (readDecimal? negative rest).map (Decimal.toNumber f)

end Number

end LabGrader
