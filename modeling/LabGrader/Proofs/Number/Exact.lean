import LabGrader.Number.Basic
import Mathlib.Tactic.Linarith
import Mathlib.Tactic.NormNum

/-!
# Exact arithmetic

Where nothing is rounded, the operations on numbers are those on the fractions that they stand for,
either zero standing for 0. What is no fraction stays as it is if a fraction is taken off.
-/

namespace LabGrader.Number

variable {x y : Number} {a b : Rat}

theorem value?_eq_some_iff : x.value? = some a ↔ x = .finite a ∨ (x = .negativeZero ∧ a = 0) := by
  cases x <;> simp [value?, eq_comm]

theorem value?_eq_none_iff : x.value? = none ↔ x = .nan ∨ ∃ negative, x = .infinite negative := by
  cases x <;> simp [value?]

theorem isFinite_of_value? (hx : x.value? = some a) : x.isFinite = true := by
  rw [isFinite, hx]
  rfl

theorem value?_of_not_finite (h : x.isFinite = false) : x.value? = none :=
  Option.isNone_iff_eq_none.mp (Option.isSome_eq_false_iff.mp h)

theorem value?_zero (negative : Bool) : (zero negative).value? = some 0 := by
  cases negative <;> rfl

theorem isFinite_zero (negative : Bool) : (zero negative).isFinite = true :=
  isFinite_of_value? (value?_zero negative)

theorem value?_ofNat (n : Nat) : (ofNat exactly n).value? = some (n : Rat) := by
  unfold ofNat
  split
  · rename_i hn
    rw [hn]
    rfl
  · rfl

theorem value?_mul (hx : x.value? = some a) (hy : y.value? = some b) :
    (mul exactly x y).value? = some (a * b) := by
  simp only [mul, hx, hy]
  split
  · rename_i hzero
    rw [value?_zero, hzero]
  · rfl

theorem value?_negate (hx : x.value? = some a) : x.negate.value? = some (-a) := by
  rcases value?_eq_some_iff.mp hx with rfl | ⟨rfl, rfl⟩
  · by_cases ha : a = 0 <;> simp [negate, value?, ha]
  · simp [negate, value?]

theorem isFinite_negate (x : Number) : x.negate.isFinite = x.isFinite := by
  cases x with
  | finite q => by_cases hq : q = 0 <;> simp [negate, isFinite, value?, hq]
  | _ => rfl

theorem value?_add (hx : x.value? = some a) (hy : y.value? = some b) :
    (add exactly x y).value? = some (a + b) := by
  rcases value?_eq_some_iff.mp hx with rfl | ⟨rfl, rfl⟩
  · rcases value?_eq_some_iff.mp hy with rfl | ⟨rfl, rfl⟩
    · by_cases hsum : a + b = 0 <;> simp [add, exactly, value?, hsum]
    · simp [add, value?]
  · rw [zero_add, ← hy]
    rcases value?_eq_some_iff.mp hy with rfl | ⟨rfl, rfl⟩
    · rfl
    · rfl

theorem value?_sub (hx : x.value? = some a) (hy : y.value? = some b) :
    (sub exactly x y).value? = some (a - b) := by
  rw [sub_eq_add_neg]
  exact value?_add hx (value?_negate hy)

theorem sub_eq_self (round : Rounding) (hx : x.value? = none) (hy : y.value? = some b) :
    sub round x y = x := by
  rcases value?_eq_none_iff.mp hx with rfl | ⟨negative, rfl⟩
  · rfl
  · unfold sub
    rcases value?_eq_some_iff.mp (value?_negate hy) with hneg | ⟨hneg, -⟩
    · rw [hneg]
      rfl
    · rw [hneg]
      rfl

theorem less_iff (hx : x.value? = some a) (hy : y.value? = some b) :
    less x y = true ↔ a < b := by
  have hless : less x y = decide (x.value?.getD 0 < y.value?.getD 0) := by
    rcases value?_eq_some_iff.mp hx with rfl | ⟨rfl, rfl⟩ <;>
      rcases value?_eq_some_iff.mp hy with rfl | ⟨rfl, rfl⟩ <;> rfl
  rw [hless, hx, hy]
  exact decide_eq_true_iff

theorem value?_least (hx : x.value? = some a) (hy : y.value? = some b) :
    (least x y).value? = some (min a b) := by
  have hnan : x ≠ .nan := by
    rintro rfl
    cases hx
  unfold least
  rw [if_neg hnan]
  split
  · rename_i hless
    rw [hy, min_eq_right ((less_iff hy hx).mp hless).le]
  · rename_i hless
    rw [hx, min_eq_left]
    exact le_of_not_gt fun hlt => hless ((less_iff hy hx).mpr hlt)

end LabGrader.Number
