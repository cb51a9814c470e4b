/-!
# Numbers of scores

Prices and scores are fractions, with a second zero, two infinities and a value that is no number.
The operations compute a fraction exactly and then round it, so each takes the rounding: to the
numbers of a binary format, or `exactly`.
-/

namespace LabGrader

inductive Number where
  | nan
  | infinite (negative : Bool)
  | negativeZero
  | finite (value : Rat)
deriving DecidableEq, Inhabited

abbrev Rounding := Rat → Number

namespace Number

/-- The rounding of exact arithmetic. -/
def exactly : Rounding := .finite

/-- The fraction a number stands for, either zero being 0. -/
def value? : Number → Option Rat
  | .nan => none
  | .infinite _ => none
  | .negativeZero => some 0
  | .finite q => some q

def isFinite (x : Number) : Bool := x.value?.isSome

def isNegative : Number → Bool
  | .nan => false
  | .infinite negative => negative
  | .negativeZero => true
  | .finite q => q < 0

def zero (negative : Bool) : Number := if negative then .negativeZero else .finite 0

def negate : Number → Number
  | .nan => .nan
  | .infinite negative => .infinite !negative
  | .negativeZero => .finite 0
  | .finite q => if q = 0 then .negativeZero else .finite (-q)

/-- A sum that vanishes is the plain zero, unless both terms are the other one. -/
def add (round : Rounding) : Number → Number → Number
  | .nan, _ => .nan
  | _, .nan => .nan
  | .infinite a, .infinite b => if a = b then .infinite a else .nan
  | .infinite a, _ => .infinite a
  | _, .infinite b => .infinite b
  | .negativeZero, y => y
  | x, .negativeZero => x
  | .finite a, .finite b => if a + b = 0 then .finite 0 else round (a + b)

def sub (round : Rounding) (x y : Number) : Number := add round x (negate y)

def mul (round : Rounding) (x y : Number) : Number :=
  let negative := x.isNegative != y.isNegative
  match x.value?, y.value? with
  | some a, some b => if a * b = 0 then zero negative else round (a * b)
  | none, some b => if x = .nan ∨ b = 0 then .nan else .infinite negative
  | some a, none => if y = .nan ∨ a = 0 then .nan else .infinite negative
  | none, none => if x = .nan ∨ y = .nan then .nan else .infinite negative

/-- Division by a fraction other than zero. -/
def scaleDown (round : Rounding) (x : Number) (d : Rat) : Number :=
  match x with
  | .finite q => if q = 0 then .finite 0 else round (q / d)
  | x => x

/-- Whether one number is less than another; false if either is no number. -/
def less : Number → Number → Bool
  | .nan, _ => false
  | _, .nan => false
  | .infinite a, .infinite b => a && !b
  | .infinite a, _ => a
  | _, .infinite b => !b
  | x, y => x.value?.getD 0 < y.value?.getD 0

/-- The lesser number; one that is no number gives way to the other. -/
def least (x y : Number) : Number :=
  if x = .nan then y else if less y x then y else x

def ofNat (round : Rounding) (n : Nat) : Number := if n = 0 then .finite 0 else round n

end Number

end LabGrader
