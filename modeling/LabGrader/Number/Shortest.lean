import LabGrader.Number.Decimal

/-!
# Shortest decimals

The shortest decimal of a number is the one with the fewest digits among those that round to it,
and of those the nearest to it. If a point of a decimal grid rounds to the number, so does one of
the two grid points next to it; the search tries these two, grid by grid.
-/

namespace LabGrader

namespace BinaryFormat

/-- The fractions that round to a number; the ends belong to them if `closed`. -/
structure Interval where
  low : Rat
  high : Rat
  closed : Bool

/-- Half the way to either neighbour. The lower neighbour of a power of two is half as far, and an
even last digit wins at both ends. -/
def interval (f : BinaryFormat) (q : Rat) : Interval :=
  let e := f.lastExponent q
  let weight := (2 : Rat) ^ e
  let digits := q / weight
  let below := if digits = (2 : Rat) ^ (f.precision - 1) ∧ f.leastExponent < e then 4 else 2
  ⟨q - weight / below, q + weight / 2, digits.floor % 2 = 0⟩

def Interval.has (i : Interval) (q : Rat) : Bool :=
  if i.closed then i.low ≤ q && q ≤ i.high else i.low < q && q < i.high

end BinaryFormat

namespace Decimal

/-- The exponent of the greatest power of ten that is at most `q`, for a positive `q`. -/
def log10 (q : Rat) : Int :=
  let guess : Int := (Text.ofNat q.num.natAbs).length - (Text.ofNat q.den).length
  if (10 : Rat) ^ guess ≤ q then guess else guess - 1

/-- Which of two decimals at the same distance is taken. -/
inductive Tie where
  | even
  | up
deriving DecidableEq

/-- The multiple of `unit` next to `q` that lies in the interval, the nearer one if both do. -/
def onGrid (tie : Tie) (i : BinaryFormat.Interval) (q unit : Rat) : Option Nat :=
  let below := (q / unit).floor.toNat
  let down := q - below * unit
  let up := (below + 1) * unit - q
  match i.has (below * unit), i.has ((below + 1) * unit) with
  | false, false => none
  | true, false => some below
  | false, true => some (below + 1)
  | true, true =>
    if down < up then some below
    else if up < down then some (below + 1)
    else match tie with
      | .up => some (below + 1)
      | .even => some (if below % 2 = 0 then below else below + 1)

/-- Digits without the zeros at their end, at most `fuel` of which are taken off. -/
def dropZeros : Nat → Nat → Int → Nat × Int
  | 0, digits, exponent => (digits, exponent)
  | fuel + 1, digits, exponent =>
    if digits ≠ 0 ∧ digits % 10 = 0 then dropZeros fuel (digits / 10) (exponent + 1)
    else (digits, exponent)

/-- Digits and exponent of the shortest decimal of a positive number of the format. Seventeen
digits are enough for every format of up to 53 binary digits. -/
def shortest (f : BinaryFormat) (tie : Tie) (q : Rat) : Nat × Int :=
  let i := f.interval q
  let top := log10 q
  let found := (List.range 17).findSome? fun (n : Nat) =>
    let e := top - n
    (onGrid tie i q ((10 : Rat) ^ e)).map fun digits => dropZeros 18 digits e
  found.getD (0, 0)

end Decimal

end LabGrader
