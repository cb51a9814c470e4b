import LabGrader.Text.Basic
import LabGrader.Text.CharRange

/-!
# Ligatures

Pairs of letters that are drawn as one. Marks without a width of their own may stand between the
letters; some pairs need a joiner there.
-/

namespace LabGrader.Text

structure Ligature where
  first : List CharRange
  last : List CharRange
  /-- whether a joiner must stand between the letters -/
  joined : Bool
  /-- the columns of the whole -/
  width : Nat

namespace Ligature

def joiner : Char := '\u200D'

def nonJoiner : Char := '\u200C'

def all : List Ligature :=
  [ -- lam and alef
    { first := [(0x644, 0x644), (0x6B5, 0x6B8), (0x76A, 0x76A), (0x8A6, 0x8A6), (0x8C7, 0x8C7)]
      last := [(0x622, 0x623), (0x625, 0x625), (0x627, 0x627), (0x671, 0x673), (0x675, 0x675),
        (0x773, 0x774), (0x870, 0x882)]
      joined := false, width := 1 },
    -- alef and lamed
    { first := [(0x5D0, 0x5D0)], last := [(0x5DC, 0x5DC)], joined := true, width := 1 },
    -- a letter below another one
    { first := [(0x17D2, 0x17D2)]
      last := [(0x1780, 0x1782), (0x1784, 0x1787), (0x1789, 0x178C), (0x178E, 0x1793),
        (0x1795, 0x1798), (0x179B, 0x179D), (0x17A0, 0x17A0), (0x17A2, 0x17A2), (0x17A7, 0x17A7),
        (0x17AB, 0x17AC), (0x17AF, 0x17AF)]
      joined := false, width := 0 },
    -- two tones
    { first := [(0xA4F8, 0xA4FB)], last := [(0xA4FC, 0xA4FD)], joined := false, width := 1 },
    -- two consonants
    { first := [(0x2D31, 0x2D65), (0x2D6F, 0x2D6F)], last := [(0x2D31, 0x2D65), (0x2D6F, 0x2D6F)]
      joined := true, width := 1 },
    { first := [(0x10C32, 0x10C32)], last := [(0x10C03, 0x10C03)], joined := true, width := 1 } ]

/-- The text after a last letter that follows marks, where `isMark` says what has no width of its
own. -/
def afterFirst? (isMark : Char → Bool) (l : Ligature) (t : Text) : Option Text :=
  let isBetween := fun c => isMark c && c ≠ nonJoiner
  match t.dropWhile isBetween with
  | [] => none
  | c :: rest =>
    if CharRange.anyHas l.last c && ((t.takeWhile isBetween).contains joiner == l.joined) then
      some rest
    else none

/-- The text after a ligature at the front. -/
def rest? (isMark : Char → Bool) (l : Ligature) : Text → Option Text
  | [] => none
  | c :: rest => if CharRange.anyHas l.first c then l.afterFirst? isMark rest else none

theorem length_dropWhile_le (p : Char → Bool) (t : Text) : (t.dropWhile p).length ≤ t.length :=
  (List.dropWhile_sublist p).length_le

theorem length_le_of_afterFirst? {isMark : Char → Bool} {l : Ligature} {t more : Text}
    (h : l.afterFirst? isMark t = some more) : more.length ≤ t.length := by
  have hle := length_dropWhile_le (fun c => isMark c && c ≠ nonJoiner) t
  simp only [afterFirst?] at h
  split at h
  · cases h
  · rename_i c rest heq
    rw [heq] at hle
    split at h
    · cases h
      exact Nat.le_of_succ_le hle
    · cases h

theorem length_lt_of_rest? {isMark : Char → Bool} {l : Ligature} {t more : Text}
    (h : l.rest? isMark t = some more) : more.length < t.length := by
  cases t with
  | nil => cases h
  | cons c rest =>
    simp only [rest?] at h
    split at h
    · exact Nat.lt_succ_of_le (length_le_of_afterFirst? h)
    · cases h

/-- The ligature at the front, if there is one: its width and the text after it. -/
def take? (isMark : Char → Bool) (t : Text) : Option (Nat × Text) :=
  all.findSome? fun l => (l.rest? isMark t).map fun more => (l.width, more)

theorem length_lt_of_take? {isMark : Char → Bool} {t more : Text} {n : Nat}
    (h : take? isMark t = some (n, more)) : more.length < t.length := by
  obtain ⟨l, _, hl⟩ := List.exists_of_findSome?_eq_some h
  obtain ⟨m, hm, heq⟩ := Option.map_eq_some_iff.1 hl
  cases heq
  exact length_lt_of_rest? hm

end Ligature

end LabGrader.Text
