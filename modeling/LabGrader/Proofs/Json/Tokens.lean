import LabGrader.Json.Reader
import LabGrader.Json.Value
import Mathlib.Data.List.TakeWhile

/-!
# Tokens in front of other text

A reader of a token stops where the token ends, whatever comes next, as long as that cannot be read
as more of it. A string ends at its quote: escaping leaves no other quote in it, and reading undoes
the escapes one character at a time. A number ends before what is no part of a number.
-/

namespace LabGrader.Json

section Space
variable {t space rest : Text}

theorem skipSpace_append_of_all (h : space.all isSpace = true) (t : Text) :
    skipSpace (space ++ t) = skipSpace t := by
  unfold skipSpace
  exact List.dropWhile_append_of_pos (List.all_eq_true.mp h)

theorem skipSpace_cons {c : Char} (h : isSpace c = false) (t : Text) :
    skipSpace (c :: t) = c :: t := by
  unfold skipSpace
  exact List.dropWhile_cons_of_neg (by simp [h])

theorem skipSpace_append (h : skipSpace t ≠ []) (rest : Text) :
    skipSpace (t ++ rest) = skipSpace t ++ rest := by
  unfold skipSpace at h ⊢
  rw [List.dropWhile_append, if_neg (by simpa using h)]

theorem skipSpace_skipSpace (t : Text) : skipSpace (skipSpace t) = skipSpace t := by
  cases h : skipSpace t with
  | nil => rfl
  | cons c rest =>
    have hlength : 0 < (t.dropWhile isSpace).length := by
      change 0 < (skipSpace t).length
      rw [h]
      exact Nat.succ_pos _
    have hfirst := List.dropWhile_get_zero_not isSpace t hlength
    simp only [List.get_eq_getElem, show t.dropWhile isSpace = c :: rest from h] at hfirst
    exact skipSpace_cons (Bool.not_eq_true _ ▸ hfirst) rest

end Space

section Strings
variable {rest : Text}

theorem hexValue?_hexDigit {d : Nat} (h : d < 16) : hexValue? (hexDigit d) = some d := by
  revert d
  decide

theorem takeString_plain {c : Char} (hquote : c ≠ '"') (hslash : c ≠ '\\')
    (hcontrol : ¬ c.toNat < 0x20) (seen rest : Text) :
    takeString seen .plain (c :: rest) = takeString (c :: seen) .plain rest := by
  simp only [takeString, if_neg hquote, if_neg hslash, if_neg hcontrol]

theorem takeString_letter {c letter : Char} (h : escaped? letter = some c) (hunit : letter ≠ 'u')
    (seen rest : Text) :
    takeString seen .plain ('\\' :: letter :: rest) = takeString (c :: seen) .plain rest := by
  have hslash : '\\' ≠ '"' := by decide
  simp only [takeString, if_neg hslash, if_true, if_neg hunit, h]

theorem takeString_control {c : Char} (h : c.toNat < 0x20) (seen rest : Text) :
    takeString seen .plain
        (['\\', 'u', '0', '0', hexDigit (c.toNat / 16), hexDigit (c.toNat % 16)] ++ rest) =
      takeString (c :: seen) .plain rest := by
  have hslash : '\\' ≠ '"' := by decide
  have hzero : hexValue? '0' = some 0 := by decide
  have hhigh : hexValue? (hexDigit (c.toNat / 16)) = some (c.toNat / 16) :=
    hexValue?_hexDigit (by omega)
  have hlow : hexValue? (hexDigit (c.toNat % 16)) = some (c.toNat % 16) :=
    hexValue?_hexDigit (by omega)
  have hroom : roomForUnit
      ('0' :: '0' :: hexDigit (c.toNat / 16) :: hexDigit (c.toNat % 16) :: rest) = .ok () := by
    have hsize := Char.utf8Size_pos
    have hbytes : ¬ Text.byteCount
        ['0', '0', hexDigit (c.toNat / 16), hexDigit (c.toNat % 16)] < 4 := by
      have hfirst := hsize '0'
      have hthird := hsize (hexDigit (c.toNat / 16))
      have hfourth := hsize (hexDigit (c.toNat % 16))
      simp only [Text.byteCount, List.foldl_cons, List.foldl_nil]
      omega
    simp [roomForUnit, hbytes]
  have hvalue : c.toNat / 16 * 16 + c.toNat % 16 = c.toNat := Nat.div_add_mod' _ _
  have hunit : completeUnit none c.toNat = .ok (.inl c) := by
    have hnotlow : isLowUnit c.toNat = false := by simp [isLowUnit]; omega
    have hnothigh : isHighUnit c.toNat = false := by simp [isHighUnit]; omega
    simp [completeUnit, hnotlow, hnothigh]
  simp [takeString, hroom, hzero, hhigh, hlow, hvalue, hunit]

theorem takeString_escape (c : Char) (seen rest : Text) :
    takeString seen .plain (escape c ++ rest) = takeString (c :: seen) .plain rest := by
  by_cases hletter : c ∈ ['"', '\\', '\x08', '\x0c', '\n', '\r', '\t']
  · simp only [List.mem_cons, List.not_mem_nil, or_false] at hletter
    rcases hletter with rfl | rfl | rfl | rfl | rfl | rfl | rfl <;>
      exact takeString_letter rfl (by decide) seen rest
  · simp only [List.mem_cons, List.not_mem_nil, or_false, not_or] at hletter
    obtain ⟨hquote, hslash, hothers⟩ := hletter
    by_cases hcontrol : c.toNat < 0x20
    · have hescape : escape c =
          ['\\', 'u', '0', '0', hexDigit (c.toNat / 16), hexDigit (c.toNat % 16)] := by
        simp [escape, hquote, hslash, hothers, hcontrol]
      rw [hescape]
      exact takeString_control hcontrol seen rest
    · have hescape : escape c = [c] := by
        simp [escape, hquote, hslash, hothers, hcontrol]
      rw [hescape]
      exact takeString_plain hquote hslash hcontrol seen rest

/-- A string is read to the quote that ends it, and comes out as it was before it was escaped. -/
theorem takeString_flatMap_escape (t seen rest : Text) :
    takeString seen .plain (t.flatMap escape ++ '"' :: rest) = .ok (seen.reverse ++ t, rest) := by
  induction t generalizing seen with
  | nil => simp [takeString]
  | cons c t ih =>
    rw [List.flatMap_cons, List.append_assoc, takeString_escape, ih]
    simp

end Strings

/-- A text that no number goes on with. -/
def EndsNumber (rest : Text) : Prop :=
  ∀ c ∈ rest.head?, c.isDigit = false ∧ c ≠ '.' ∧ c ≠ 'e' ∧ c ≠ 'E'

namespace Numeral

variable {t r rest : Text} {n : Numeral} {negative : Bool}

section Digits
variable (h : EndsNumber rest)
include h

theorem spanDigits_append (t : Text) :
    Number.spanDigits (t ++ rest) =
      ((Number.spanDigits t).1, (Number.spanDigits t).2 ++ rest) := by
  induction t with
  | nil =>
    cases rest with
    | nil => rfl
    | cons c rest =>
      have hc := (h c rfl).1
      simp [Number.spanDigits, hc]
  | cons c t ih =>
    simp only [Number.spanDigits, Prod.mk.injEq] at ih ⊢
    by_cases hc : c.isDigit = true
    · simp [hc, ih]
    · simp [hc]

theorem takeDigits_append (k : Nat) (t : Text) :
    takeDigits k (t ++ rest) = ((takeDigits k t).1, (takeDigits k t).2 ++ rest) := by
  induction t generalizing k with
  | nil =>
    cases rest with
    | nil => rfl
    | cons c rest =>
      have hc := (h c rfl).1
      simp [takeDigits, hc]
  | cons c t ih =>
    simp only [List.cons_append, takeDigits]
    split
    · exact ih _
    · rfl

end Digits

theorem takeSign_append (ht : t ≠ []) (rest : Text) :
    Number.takeSign (t ++ rest) = ((Number.takeSign t).1, (Number.takeSign t).2 ++ rest) := by
  obtain ⟨c, t, rfl⟩ := List.exists_cons_of_ne_nil ht
  by_cases hminus : c = '-'
  · rw [hminus]
    rfl
  · by_cases hplus : c = '+'
    · rw [hplus]
      rfl
    · simp [Number.takeSign, hminus, hplus]

theorem head?_ne_some {c : Char} (h : ∀ u, t = c :: u → False) : t.head? ≠ some c := by
  intro hc
  obtain ⟨u, hu⟩ := List.head?_eq_some_iff.mp hc
  exact h u hu

theorem takeTail_of_head?_ne (hlower : t.head? ≠ some 'e') (hupper : t.head? ≠ some 'E')
    (negative : Bool) (digits : Nat) (exponent : Int) :
    takeTail negative digits exponent t =
      (ofParts negative digits exponent).map fun x => (x, t) := by
  unfold takeTail
  split
  · exact absurd rfl hlower
  · exact absurd rfl hupper
  · cases ofParts negative digits exponent <;> rfl

theorem takeBehindDigits_of_head?_ne (hpoint : t.head? ≠ some '.') (negative : Bool)
    (digits dropped : Nat) :
    takeBehindDigits negative digits dropped t =
      if dropped ≠ 0 ∨ t.head? = some 'e' ∨ t.head? = some 'E' then
        takeTail negative digits dropped t
      else .ok (ofDigits negative digits, t) := by
  unfold takeBehindDigits
  split
  · exact absurd rfl hpoint
  · rfl

/- Each part of a number that is read from a text is read from a longer one as well, and what was
left over then has the rest behind it. -/
section Parts
variable (hrest : EndsNumber rest)
include hrest

theorem head?_append_eq_some_iff {c : Char} (hc : c ∈ ['.', 'e', 'E']) :
    (t ++ rest).head? = some c ↔ t.head? = some c := by
  cases t with
  | cons d t => rfl
  | nil =>
    have hend (hd : c ∈ rest.head?) : False := by
      obtain ⟨-, hpoint, hlower, hupper⟩ := hrest c hd
      simp [hpoint, hlower, hupper] at hc
    simpa using hend

theorem takeExponent_append {digits : Nat} {base : Int}
    (h : takeExponent negative digits base t = .ok (n, r)) :
    takeExponent negative digits base (t ++ rest) = .ok (n, r ++ rest) := by
  have ht : t ≠ [] := by
    rintro rfl
    cases h
  simp only [takeExponent, takeSign_append ht] at h ⊢
  generalize Number.takeSign t = signed at h ⊢
  obtain ⟨down, t⟩ := signed
  cases t with
  | nil => cases h
  | cons c t =>
    simp only [List.cons_append] at h ⊢
    rw [← List.cons_append, spanDigits_append hrest]
    generalize Number.spanDigits (c :: t) = run at h ⊢
    split at h
    · cases h
    · rename_i hdigit
      rw [if_neg hdigit]
      split at h
      · rename_i hlarge
        rw [if_pos hlarge]
        split at h
        · cases h
        · rename_i hzero
          rw [if_neg hzero]
          cases h
          rfl
      · rename_i hlarge
        rw [if_neg hlarge]
        generalize ofParts negative digits _ = parts at h ⊢
        cases parts with
        | error e => cases h
        | ok x =>
          cases h
          rfl

theorem takeTail_append {digits : Nat} {exponent : Int}
    (h : takeTail negative digits exponent t = .ok (n, r)) :
    takeTail negative digits exponent (t ++ rest) = .ok (n, r ++ rest) := by
  unfold takeTail at h
  split at h
  · exact takeExponent_append hrest h
  · exact takeExponent_append hrest h
  · rename_i hlower hupper
    rw [takeTail_of_head?_ne
      (mt (head?_append_eq_some_iff hrest (by simp)).mp (head?_ne_some hlower))
      (mt (head?_append_eq_some_iff hrest (by simp)).mp (head?_ne_some hupper))]
    cases hparts : ofParts negative digits exponent with
    | error e =>
      rw [hparts] at h
      cases h
    | ok x =>
      rw [hparts] at h
      cases h
      rfl

theorem takePlaces_append {digits : Nat} {exponent : Int}
    (h : takePlaces negative digits exponent t = .ok (n, r)) :
    takePlaces negative digits exponent (t ++ rest) = .ok (n, r ++ rest) := by
  cases t with
  | nil => cases h
  | cons c t =>
    simp only [takePlaces, List.cons_append] at h ⊢
    split at h
    · cases h
    · rename_i hdigit
      rw [if_neg hdigit, ← List.cons_append, takeDigits_append hrest]
      -- the places are counted as a difference of lengths, which the text behind them leaves alone
      have hlength : ((c :: t ++ rest).length : Int) -
          ((takeDigits digits (c :: t)).2 ++ rest).length =
            (c :: t).length - (takeDigits digits (c :: t)).2.length := by
        simp only [List.length_append]
        omega
      have hplaces : ((takeDigits digits (c :: t)).2 ++ rest).dropWhile Char.isDigit =
          (takeDigits digits (c :: t)).2.dropWhile Char.isDigit ++ rest :=
        congrArg Prod.snd (spanDigits_append hrest _)
      simp only [hlength, hplaces]
      exact takeTail_append hrest h

theorem takeBehindDigits_append {digits dropped : Nat}
    (h : takeBehindDigits negative digits dropped t = .ok (n, r)) :
    takeBehindDigits negative digits dropped (t ++ rest) = .ok (n, r ++ rest) := by
  have hhead {c : Char} (hc : c ∈ ['.', 'e', 'E']) := head?_append_eq_some_iff (t := t) hrest hc
  unfold takeBehindDigits at h
  split at h
  · exact takePlaces_append hrest h
  · rename_i hpoint
    have hmarks : (dropped ≠ 0 ∨ (t ++ rest).head? = some 'e' ∨ (t ++ rest).head? = some 'E') ↔
        (dropped ≠ 0 ∨ t.head? = some 'e' ∨ t.head? = some 'E') := by
      rw [hhead (by simp), hhead (by simp)]
    rw [takeBehindDigits_of_head?_ne (mt (hhead (by simp)).mp (head?_ne_some hpoint))]
    split at h
    · rename_i hmarked
      rw [if_pos (hmarks.mpr hmarked)]
      exact takeTail_append hrest h
    · rename_i hmarked
      rw [if_neg (mt hmarks.mp hmarked)]
      cases h
      rfl

theorem take_append (h : take negative t = .ok (n, r)) :
    take negative (t ++ rest) = .ok (n, r ++ rest) := by
  cases t with
  | nil => cases h
  | cons c next =>
    have hnext : (next ++ rest).head?.any Char.isDigit = next.head?.any Char.isDigit := by
      cases next with
      | cons d next => rfl
      | nil =>
        cases rest with
        | nil => rfl
        | cons d rest => exact (hrest d rfl).1
    simp only [take, List.cons_append] at h ⊢
    rw [hnext, ← List.cons_append, takeDigits_append hrest, spanDigits_append hrest]
    split at h
    · cases h
    · rename_i hdigit
      rw [if_neg hdigit]
      split at h
      · cases h
      · rename_i hzero
        rw [if_neg hzero]
        exact takeBehindDigits_append hrest h

end Parts

end Numeral

end LabGrader.Json
