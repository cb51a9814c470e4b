import LabGrader.Number.Style
import LabGrader.Text.Utf8

/-!
# Tokens of JSON texts

Strings, numbers and fixed words, read from the front of a text. A reading fails because the text
is malformed, because it is cut short, or because a well-formed value is not one that is wanted.
Whatever stands first in the text decides.
-/

namespace LabGrader.Json

inductive Fault where
  | malformed
  | cutShort
  | unwanted
deriving DecidableEq

def isSpace (c : Char) : Bool := c = ' ' || c = '\n' || c = '\t' || c = '\r'

def skipSpace (t : Text) : Text := t.dropWhile isSpace

/-- Takes a fixed text off the front. -/
def takeWord : Text → Text → Except Fault Text
  | [], t => .ok t
  | _ :: _, [] => .error .cutShort
  | c :: word, d :: t => if c = d then takeWord word t else .error .malformed

def hexValue? (c : Char) : Option Nat :=
  if c.isDigit then some (c.toNat - '0'.toNat)
  else if 'a' ≤ c ∧ c ≤ 'f' then some (c.toNat - 'a'.toNat + 10)
  else if 'A' ≤ c ∧ c ≤ 'F' then some (c.toNat - 'A'.toNat + 10)
  else none

/-- The character that a backslash and a letter stand for. -/
def escaped? (c : Char) : Option Char :=
  if c = '"' ∨ c = '\\' ∨ c = '/' then some c
  else if c = 'b' then some '\x08'
  else if c = 'f' then some '\x0c'
  else if c = 'n' then some '\n'
  else if c = 'r' then some '\r'
  else if c = 't' then some '\t'
  else none

/-- A place inside a string. `high` is the first half of a pair of code units whose second half is
still to come. -/
inductive StringPlace where
  | plain
  | escape
  | unit (high : Option Nat) (value : Nat) (missing : Nat)
  | pairBackslash (high : Nat)
  | pairLetter (high : Nat)

def isHighUnit (n : Nat) : Bool := 0xD800 ≤ n && n ≤ 0xDBFF

def isLowUnit (n : Nat) : Bool := 0xDC00 ≤ n && n ≤ 0xDFFF

/-- What a complete code unit amounts to: a character, or the first half of a pair. -/
def completeUnit (high : Option Nat) (n : Nat) : Except Fault (Char ⊕ Nat) :=
  match high with
  | some h =>
    if isLowUnit n then .ok (.inl (Char.ofNat (0x10000 + (h - 0xD800) * 0x400 + (n - 0xDC00))))
    else .error .malformed
  | none =>
    if isLowUnit n then .error .malformed
    else if isHighUnit n then .ok (.inr n)
    else .ok (.inl (Char.ofNat n))

/-- A code unit has four digits; a text with fewer bytes left is cut short. -/
def roomForUnit (t : Text) : Except Fault Unit :=
  if Text.byteCount (t.take 4) < 4 then .error .cutShort else .ok ()

/-- Reads a string whose opening quote is gone, with `seen`, reversed, in front of it. -/
def takeString (seen : Text) : StringPlace → Text → Except Fault (Text × Text)
  | _, [] => .error .cutShort
  | .plain, c :: rest =>
    if c = '"' then .ok (seen.reverse, rest)
    else if c = '\\' then takeString seen .escape rest
    else if c.toNat < 0x20 then .error .malformed
    else takeString (c :: seen) .plain rest
  | .escape, c :: rest =>
    if c = 'u' then
      match roomForUnit rest with
      | .error e => .error e
      | .ok _ => takeString seen (.unit none 0 4) rest
    else match escaped? c with
      | none => .error .malformed
      | some d => takeString (d :: seen) .plain rest
  | .unit high value missing, c :: rest =>
    match hexValue? c with
    | none => .error .malformed
    | some d =>
      if 1 < missing then takeString seen (.unit high (value * 16 + d) (missing - 1)) rest
      else match completeUnit high (value * 16 + d) with
        | .error e => .error e
        | .ok (.inl d) => takeString (d :: seen) .plain rest
        | .ok (.inr h) => takeString seen (.pairBackslash h) rest
  | .pairBackslash high, c :: rest =>
    if c = '\\' then takeString seen (.pairLetter high) rest else .error .malformed
  | .pairLetter high, c :: rest =>
    if c = 'u' then
      match roomForUnit rest with
      | .error e => .error e
      | .ok _ => takeString seen (.unit (some high) 0 4) rest
    else .error .malformed

/-- Passes a string whose opening quote is gone; halves of pairs may stand alone in it. -/
def passString : StringPlace → Text → Except Fault Text
  | _, [] => .error .cutShort
  | .escape, c :: rest =>
    if c = 'u' then
      match roomForUnit rest with
      | .error e => .error e
      | .ok _ => passString (.unit none 0 4) rest
    else if (escaped? c).isSome then passString .plain rest
    else .error .malformed
  | .unit high value missing, c :: rest =>
    if (hexValue? c).isNone then .error .malformed
    else if 1 < missing then passString (.unit high value (missing - 1)) rest
    else passString .plain rest
  | _, c :: rest =>
    if c = '"' then .ok rest
    else if c = '\\' then passString .escape rest
    else if c.toNat < 0x20 then .error .malformed
    else passString .plain rest

/-- A number as it is read: a whole number of 64 bits, with or without a minus sign, or any other
number. -/
inductive Numeral where
  | whole (n : Nat)
  | negative (n : Nat)
  | real (x : Number)

namespace Numeral

def wholeLimit : Nat := Nat.pow 2 64 - 1

def exponentLimit : Int := Int.ofNat (Nat.pow 2 31 - 1)

/-- Takes digits as long as the value fits into 64 bits. -/
def takeDigits (n : Nat) : Text → Nat × Text
  | [] => (n, [])
  | c :: rest =>
    if c.isDigit && 10 * n + (c.toNat - '0'.toNat) ≤ wholeLimit then
      takeDigits (10 * n + (c.toNat - '0'.toNat)) rest
    else (n, c :: rest)

/-- Brings a number to its power of ten. The powers themselves are rounded, and a power below the
last of them is reached in several steps, at most `fuel`. -/
def scale : Nat → Number → Int → Except Fault Number
  | 0, x, _ => .ok x
  | fuel + 1, x, e =>
    let round := BinaryFormat.binary64.round
    if e.natAbs ≤ 308 then
      let power := (round ((10 : Rat) ^ e.natAbs)).value?.getD 1
      if 0 ≤ e then
        let y := Number.mul round x (.finite power)
        if y.isFinite then .ok y else .error .malformed
      else .ok (Number.scaleDown round x power)
    else if x = .finite 0 then .ok x
    else if 0 ≤ e then .error .malformed
    else
      let power := (round ((10 : Rat) ^ 308)).value?.getD 1
      scale fuel (Number.scaleDown round x power) (e + 308)

/-- The number with the given digits; beyond all numbers it is malformed. -/
def ofParts (negative : Bool) (digits : Nat) (exponent : Int) : Except Fault Numeral :=
  match scale 8 (Number.ofNat BinaryFormat.binary64.round digits) exponent with
  | .error e => .error e
  | .ok x => .ok (.real (if negative then x.negate else x))

/-- The part after an exponent mark. An exponent that exceeds 32 bits makes the number zero, or
malformed if it would be large. -/
def takeExponent (negative : Bool) (digits : Nat) (base : Int) (t : Text) :
    Except Fault (Numeral × Text) := do
  let (down, rest) := Number.takeSign t
  match rest with
  | [] => .error .cutShort
  | c :: _ =>
    if !c.isDigit then .error .malformed
    else
      let (run, rest) := Number.spanDigits rest
      let e : Int := Decimal.valueOf run
      if exponentLimit < e then
        if digits ≠ 0 ∧ !down then .error .malformed
        else .ok (.real (.zero negative), rest)
      else
        let e := if down then max (-exponentLimit - 1) (base - e) else min exponentLimit (base + e)
        return (← ofParts negative digits e, rest)

/-- The rest of a number that is not whole. -/
def takeTail (negative : Bool) (digits : Nat) (exponent : Int) (t : Text) :
    Except Fault (Numeral × Text) := do
  match t with
  | 'e' :: rest => takeExponent negative digits exponent rest
  | 'E' :: rest => takeExponent negative digits exponent rest
  | _ => return (← ofParts negative digits exponent, t)

/-- The places after a point. Those that do not fit are left out. -/
def takePlaces (negative : Bool) (digits : Nat) (exponent : Int) (t : Text) :
    Except Fault (Numeral × Text) :=
  match t with
  | [] => .error .cutShort
  | c :: _ =>
    if !c.isDigit then .error .malformed
    else
      let (digits, rest) := takeDigits digits t
      let places : Int := t.length - rest.length
      takeTail negative digits (exponent - places) (rest.dropWhile Char.isDigit)

/-- A number without point and exponent. Minus zero and what has no 64 bits are not whole. -/
def ofDigits (negative : Bool) (digits : Nat) : Numeral :=
  if !negative then .whole digits
  else if digits = 0 ∨ Nat.pow 2 63 < digits then
    .real (Number.ofNat BinaryFormat.binary64.round digits).negate
  else .negative digits

/-- The rest of a number behind its digits before the point, the last `dropped` of which did not
fit. -/
def takeBehindDigits (negative : Bool) (digits dropped : Nat) (t : Text) :
    Except Fault (Numeral × Text) :=
  match t with
  | '.' :: rest => takePlaces negative digits dropped rest
  | _ =>
    if dropped ≠ 0 ∨ t.head? = some 'e' ∨ t.head? = some 'E' then
      takeTail negative digits dropped t
    else .ok (ofDigits negative digits, t)

/-- A number without its sign, at a digit. -/
def take (negative : Bool) (t : Text) : Except Fault (Numeral × Text) :=
  match t with
  | [] => .error .cutShort
  | c :: next =>
    if !c.isDigit then .error .malformed
    else if c = '0' && next.head?.any Char.isDigit then .error .malformed
    else
      let (digits, rest) := takeDigits 0 t
      let (dropped, rest) := Number.spanDigits rest
      takeBehindDigits negative digits dropped.length rest

/-- Passes a number without its sign by its grammar alone. -/
def pass (t : Text) : Except Fault Text :=
  let exponent (t : Text) : Except Fault Text :=
    let digits := (Number.takeSign t).2
    if digits.head?.any Char.isDigit then .ok (digits.dropWhile Char.isDigit) else .error .malformed
  let tail (t : Text) : Except Fault Text :=
    match t with
    | 'e' :: rest => exponent rest
    | 'E' :: rest => exponent rest
    | t => .ok t
  match t with
  | [] => .error .malformed
  | c :: next =>
    if !c.isDigit then .error .malformed
    else if c = '0' && next.head?.any Char.isDigit then .error .malformed
    else match t.dropWhile Char.isDigit with
      | '.' :: rest =>
        if rest.head?.any Char.isDigit then tail (rest.dropWhile Char.isDigit)
        else .error .malformed
      | rest => tail rest

def toNumber (f : BinaryFormat) : Numeral → Number
  | .whole n => Number.ofNat f.round n
  | .negative n => (Number.ofNat f.round n).negate
  | .real (.finite q) => f.round q
  | .real x => x

end Numeral

end LabGrader.Json
