import LabGrader.Text.Basic

/-!
# The order of texts

Texts are ordered like the lists of their code points.
-/

namespace LabGrader

namespace Text

theorem order_eq_compare (s t : Text) :
    order s t = compare (s.map Char.toNat) (t.map Char.toNat) := by
  induction s generalizing t with
  | nil => cases t <;> rfl
  | cons a s ih =>
    cases t with
    | nil => rfl
    | cons b t =>
      simp only [order, List.map_cons, List.compare_cons_cons]
      by_cases hlt : a.toNat < b.toNat
      · simp [hlt, Nat.compare_eq_lt.mpr hlt]
      · by_cases hgt : b.toNat < a.toNat
        · simp [hlt, hgt, Nat.compare_eq_gt.mpr hgt]
        · have heq : a.toNat = b.toNat := by omega
          simp [heq, ih]

theorem order_refl (s : Text) : (order s s).isLE := by
  simp [order_eq_compare]

theorem order_trans {r s t : Text} (h : (order r s).isLE) (h' : (order s t).isLE) :
    (order r t).isLE := by
  rw [order_eq_compare] at h h' ⊢
  exact Std.TransOrd.isLE_trans h h'

theorem order_total (s t : Text) : (order s t).isLE || (order t s).isLE := by
  rw [order_eq_compare, order_eq_compare, Bool.or_eq_true]
  by_cases h : (compare (s.map Char.toNat) (t.map Char.toNat)).isLE
  · exact Or.inl h
  · exact Or.inr (Ordering.isLE_of_eq_lt (Std.OrientedCmp.lt_of_not_isLE h))

end Text

end LabGrader
