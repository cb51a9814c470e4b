import LabGrader.Text.Ligature
import LabGrader.Text.WidthTable

/-!
# Columns that a text takes

Characters take no, one or two columns. Some sequences take others than their characters do
together: a line break of two characters, ligatures, and pictures built with selectors, skin tones
and joiners.
-/

namespace LabGrader.Text

/-- The columns of a character on its own; a control character takes one. -/
def charWidth (c : Char) : Nat :=
  if c.toNat < 0x7F then 1
  else if CharRange.anyHas zeroWidthRanges c then 0
  else if CharRange.anyHas wideRanges c then 2
  else 1

def hasNoWidth (c : Char) : Bool := charWidth c = 0

def textSelector : Char := '\uFE0E'
def pictureSelector : Char := '\uFE0F'

def isSkinTone (c : Char) : Bool := 0x1F3FB ≤ c.toNat && c.toNat ≤ 0x1F3FF

def isPicture (c : Char) : Bool :=
  CharRange.anyHas presentationRanges c || CharRange.anyHas pictureBaseRanges c

/-- A picture at the front, and the text after it: a character that shows as a picture by itself, by
a selector or with a skin tone. -/
def takePicture? : Text → Option Text
  | c :: d :: rest =>
    if d = pictureSelector ∧ isPicture c then some rest
    else if isSkinTone d ∧ CharRange.anyHas modifierBaseRanges c then some rest
    else if CharRange.anyHas presentationRanges c then some (d :: rest)
    else none
  | [c] => if CharRange.anyHas presentationRanges c then some [] else none
  | [] => none

theorem length_lt_of_takePicture? {t rest : Text} (h : takePicture? t = some rest) :
    rest.length < t.length := by
  unfold takePicture? at h
  split at h
  · split at h
    · cases h; simp only [List.length_cons]; omega
    · split at h
      · cases h; simp only [List.length_cons]; omega
      · split at h
        · cases h; simp
        · simp at h
  · split at h
    · cases h; simp
    · simp at h
  · simp at h

/-- Drops the pictures that joiners tie to the one before. -/
def dropJoined (t : Text) : Text :=
  match t with
  | [] => []
  | c :: rest =>
    if c = Ligature.joiner then
      match _h : takePicture? rest with
      | some more => dropJoined more
      | none => c :: rest
    else c :: rest
termination_by t.length
decreasing_by
  have := length_lt_of_takePicture? _h
  simp only [List.length_cons]
  omega

theorem length_dropJoined_le (t : Text) : (dropJoined t).length ≤ t.length := by
  fun_induction dropJoined t with
  | case1 => exact Nat.le_refl _
  | case2 rest more h ih =>
    have := length_lt_of_takePicture? h
    simp only [List.length_cons]
    omega
  | case3 => exact Nat.le_refl _
  | case4 => exact Nat.le_refl _

/-- The columns that the text takes, more than `n`. -/
def widthFrom (n : Nat) (t : Text) : Nat :=
  match t with
  | [] => n
  | '\r' :: '\n' :: rest => widthFrom (n + 1) rest
  | c :: rest =>
    if c.toNat < 0x7F ∧ rest.head? ≠ some pictureSelector then widthFrom (n + 1) rest
    else if rest.head? = some textSelector ∧ CharRange.anyHas textBaseRanges c then
      widthFrom (n + 1) rest
    else
      match _hl : Ligature.take? hasNoWidth (c :: rest) with
      | some (w, more) => widthFrom (n + w) more
      | none =>
        match h : takePicture? (c :: rest) with
        | some more => widthFrom (n + 2) (dropJoined more)
        | none => widthFrom (n + charWidth c) rest
termination_by t.length
decreasing_by
  all_goals first
    | (have h1 := length_lt_of_takePicture? h
       have h2 := length_dropJoined_le more
       simp only [List.length_cons] at *
       omega)
    | exact Ligature.length_lt_of_take? _hl
    | (simp only [List.length_cons]; omega)

def width (t : Text) : Nat := widthFrom 0 t

end LabGrader.Text
