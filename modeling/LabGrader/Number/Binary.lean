import LabGrader.Number.Basic

/-!
# Binary formats

The finite numbers of a format are the multiples of its least positive number that need no more
binary digits than its precision. `round` takes a fraction to the nearest of them, of two nearest
to the one whose last digit is even, and beyond the largest to an infinity.
-/

namespace LabGrader

structure BinaryFormat where
  /-- the number of binary digits -/
  precision : Nat
  /-- the least positive number is two to this power -/
  leastExponent : Int
  /-- all finite numbers are below two to this power -/
  ceilingExponent : Int

namespace BinaryFormat

def binary64 : BinaryFormat := ⟨53, -1074, 1024⟩

def binary32 : BinaryFormat := ⟨24, -149, 128⟩

/-- The exponent of the greatest power of two that is at most `q`, for a positive `q`. -/
def log2 (q : Rat) : Int :=
  let guess : Int := (q.num.natAbs.log2 : Int) - (q.den.log2 : Int)
  if (2 : Rat) ^ guess ≤ q then guess else guess - 1

/-- The exponent of the last binary digit that the format has for a positive `q`. -/
def lastExponent (f : BinaryFormat) (q : Rat) : Int :=
  max f.leastExponent (log2 q + 1 - f.precision)

/-- The nearest integer, of two nearest the even one. -/
def nearestEven (q : Rat) : Int :=
  let below := q.floor
  let rest := q - below
  if rest < 1 / 2 then below
  else if 1 / 2 < rest then below + 1
  else if below % 2 = 0 then below else below + 1

/-- The multiple of the last digit's weight that is nearest to a positive `q`. -/
def nearest (f : BinaryFormat) (q : Rat) : Rat :=
  let weight := (2 : Rat) ^ f.lastExponent q
  nearestEven (q / weight) * weight

def round (f : BinaryFormat) (q : Rat) : Number :=
  if q = 0 then .finite 0
  else
    let size := f.nearest q.abs
    if (2 : Rat) ^ f.ceilingExponent ≤ size then .infinite (q < 0)
    else if size = 0 then .zero (q < 0)
    else .finite (if q < 0 then -size else size)

end BinaryFormat

end LabGrader
