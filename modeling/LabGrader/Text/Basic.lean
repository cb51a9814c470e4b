/-!
# Texts

A text is a list of characters. Here are the searches and cuts that the rest of the library shares.
-/

namespace LabGrader

abbrev Text := List Char

namespace Text

def ofNat (n : Nat) : Text := Nat.toDigits 10 n

def ofInt (n : Int) : Text := if n < 0 then '-' :: ofNat n.natAbs else ofNat n.natAbs

/-- ASCII letters in lower case, every other character as it is. -/
def lowercase (t : Text) : Text := t.map Char.toLower

/-- `cutFrom m seen t` is `cut m t` with `seen`, reversed, in front of what precedes `m`. -/
def cutFrom (m : Text) (seen : Text) : Text → Option (Text × Text)
  | [] => if m.isEmpty then some (seen.reverse, []) else none
  | c :: rest =>
    if m.isPrefixOf (c :: rest) then some (seen.reverse, (c :: rest).drop m.length)
    else cutFrom m (c :: seen) rest

/-- What stands before and after the first occurrence of `m`. -/
def cut (m t : Text) : Option (Text × Text) := cutFrom m [] t

def contains (t m : Text) : Bool := (cut m t).isSome

/-- Leaves out every occurrence of the two characters `a`, `b` in a row, from the left. -/
def erasePair (a b : Char) : Text → Text
  | x :: y :: rest =>
    if x = a ∧ y = b then erasePair a b rest else x :: erasePair a b (y :: rest)
  | t => t

/-- The text before a suffix. -/
def dropSuffix? (suffix t : Text) : Option Text :=
  if suffix.isSuffixOf t then some (t.take (t.length - suffix.length)) else none

/-- The items with `separator` between them. -/
def joinWith (separator : Text) (items : List Text) : Text := separator.intercalate items

/-- Code point order, a prefix before its extensions. -/
def order : Text → Text → Ordering
  | [], [] => .eq
  | [], _ :: _ => .lt
  | _ :: _, [] => .gt
  | a :: s, b :: t =>
    if a.toNat < b.toNat then .lt else if b.toNat < a.toNat then .gt else order s t

end Text

end LabGrader
