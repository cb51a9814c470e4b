import LabGrader.Number.Shortest

/-!
# Ways to write numbers

A style says for which sizes a number is written with its point in place and for which with an
exponent. The digits are the shortest ones, or a fixed number of places.
-/

namespace LabGrader.Number

structure Style where
  /-- the digits before the point lie strictly above the first and at most at the second number
  when there is no exponent; a style without bounds never writes one -/
  bounds : Option (Int × Int)
  /-- whether a whole number is written with `.0` -/
  wholePoint : Bool
  /-- whether an exponent that is not negative has a sign -/
  exponentPlus : Bool
  tie : Decimal.Tie

namespace Style

/-- Digits with the point in place and no exponent. -/
def plain : Style := ⟨none, false, false, .up⟩

/-- The form of values in diagnostics. -/
def diagnostic : Style := ⟨some (-4, 16), true, false, .up⟩

/-- The form of numbers in JSON texts. -/
def json : Style := ⟨some (-5, 16), true, true, .even⟩

def zeros (n : Nat) : Text := List.replicate n '0'

/-- The digits with a point after the first `point` of them, filled up with zeros on either side. -/
def positional (s : Style) (digits : Text) (point : Int) : Text :=
  if point ≤ 0 then '0' :: '.' :: zeros (-point).toNat ++ digits
  else if digits.length ≤ point.toNat then
    digits ++ zeros (point.toNat - digits.length) ++ (if s.wholePoint then ".0".toList else [])
  else digits.take point.toNat ++ '.' :: digits.drop point.toNat

/-- One digit before the point, and the exponent that puts it in place. -/
def scientific (s : Style) (digits : Text) (point : Int) : Text :=
  let places := digits.drop 1
  let sign := if s.exponentPlus && 0 ≤ point - 1 then ['+'] else []
  digits.take 1 ++ (if places.isEmpty then [] else '.' :: places) ++ 'e' :: sign ++
    Text.ofInt (point - 1)

def magnitude (s : Style) (f : BinaryFormat) (q : Rat) : Text :=
  if q = 0 then if s.wholePoint then "0.0".toList else ['0']
  else
    let (digits, exponent) := Decimal.shortest f s.tie q
    let digits := Text.ofNat digits
    let point := digits.length + exponent
    match s.bounds with
    | some (low, high) =>
      if low < point ∧ point ≤ high then s.positional digits point
      else s.scientific digits point
    | none => s.positional digits point

end Style

def signed (negative : Bool) (t : Text) : Text := if negative then '-' :: t else t

def write (s : Style) (f : BinaryFormat) : Number → Text
  | .nan => "NaN".toList
  | .infinite negative => signed negative "inf".toList
  | .negativeZero => signed true (s.magnitude f 0)
  | .finite q => signed (q < 0) (s.magnitude f q.abs)

/-- The nearest decimal with two places, of two nearest the one whose last digit is even. -/
def hundredths (q : Rat) : Text :=
  let n := (BinaryFormat.nearestEven (q * 100)).toNat
  Text.ofNat (n / 100) ++ '.' :: Text.ofNat (n / 10 % 10) ++ Text.ofNat (n % 10)

def writeHundredths : Number → Text
  | .nan => "NaN".toList
  | .infinite negative => signed negative "inf".toList
  | .negativeZero => signed true (hundredths 0)
  | .finite q => signed (q < 0) (hundredths q.abs)

end LabGrader.Number
