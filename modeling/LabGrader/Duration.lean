import LabGrader.Number.Style

/-!
# Spans of time

Whole nanoseconds, up to 2^64 - 1 seconds and the nanoseconds that do not make one more.
-/

namespace LabGrader

structure Duration where
  nanoseconds : Nat
deriving DecidableEq, Inhabited

namespace Duration

def longest : Duration := ⟨Nat.pow 2 64 * 1000000000 - 1⟩

def ofSeconds (n : Nat) : Duration := ⟨n * 1000000000⟩

def ofMilliseconds (n : Nat) : Duration := ⟨n * 1000000⟩

def milliseconds (d : Duration) : Nat := d.nanoseconds / 1000000

def shorter (a b : Duration) : Duration := ⟨min a.nanoseconds b.nanoseconds⟩

/-- The product, or the longest span if it would be longer. -/
def times (d : Duration) (n : Nat) : Duration := shorter ⟨d.nanoseconds * n⟩ longest

/-- A value in units of `10^places`, without zeros at the end of the fraction. -/
def inUnits (n places : Nat) (unit : String) : Text :=
  let size := Nat.pow 10 places
  let digits := Text.ofNat (n % size)
  let fraction := Number.Style.zeros (places - digits.length) ++ digits
  let kept := (fraction.reverse.dropWhile (· = '0')).reverse
  Text.ofNat (n / size) ++ (if n % size = 0 then [] else '.' :: kept) ++ unit.toList

/-- In the largest unit of which there is at least one. -/
def write (d : Duration) : Text :=
  let n := d.nanoseconds
  if 1000000000 ≤ n then inUnits n 9 "s"
  else if 1000000 ≤ n then inUnits n 6 "ms"
  else if 1000 ≤ n then inUnits n 3 "µs"
  else inUnits n 0 "ns"

end Duration

end LabGrader
