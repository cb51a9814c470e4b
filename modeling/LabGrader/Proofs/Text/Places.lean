import LabGrader.Proofs.Text.Cut
import Mathlib.Order.Bounds.Basic
import Mathlib.Order.Interval.Set.Defs
import Mathlib.Order.Nat

/-!
# Places of a mark

A text is cut at the least place at which the mark stands.
-/

namespace LabGrader.Text

/-- The places of a text at which a mark begins. -/
def places (m t : Text) : Set Nat := {i | m <+: t.drop i}

variable {m t a b : Text} {i j k : Nat}

theorem mem_places_drop : j ∈ places m (t.drop k) ↔ k + j ∈ places m t := by
  simp only [places, Set.mem_ofPred_eq, List.drop_drop]

/-- The least place behind `k` is the least one in what stands behind `k`. -/
theorem isLeast_places_drop :
    IsLeast (places m (t.drop k)) j ↔ IsLeast (places m t ∩ Set.Ici k) (k + j) := by
  constructor
  · rintro ⟨hj, hleast⟩
    refine ⟨⟨mem_places_drop.mp hj, Nat.le_add_right k j⟩, ?_⟩
    rintro i ⟨hi, hk⟩
    obtain ⟨i, rfl⟩ := Nat.exists_eq_add_of_le hk
    exact Nat.add_le_add_left (hleast (mem_places_drop.mpr hi)) k
  · rintro ⟨⟨hj, -⟩, hleast⟩
    refine ⟨mem_places_drop.mpr hj, ?_⟩
    intro i hi
    exact Nat.le_of_add_le_add_left (hleast ⟨mem_places_drop.mp hi, Nat.le_add_right k i⟩)

theorem infix_iff_exists_place : m <:+: t ↔ ∃ i, i ∈ places m t := by
  constructor
  · rintro ⟨front, back, rfl⟩
    refine ⟨front.length, back, ?_⟩
    rw [List.append_assoc, List.drop_left]
  · rintro ⟨i, hi⟩
    exact hi.isInfix.trans (List.drop_suffix i t).isInfix

theorem not_mem_places_of_cutFrom {seen : Text} (h : cutFrom m seen t = some (a, b))
    (hj : seen.length + j < a.length) : j ∉ places m t := by
  induction t generalizing seen j with
  | nil =>
    unfold cutFrom at h
    split at h
    · obtain ⟨rfl, -⟩ := Prod.mk.inj (Option.some.inj h)
      rw [List.length_reverse] at hj
      omega
    · cases h
  | cons c t ih =>
    unfold cutFrom at h
    split at h
    · obtain ⟨rfl, -⟩ := Prod.mk.inj (Option.some.inj h)
      rw [List.length_reverse] at hj
      omega
    · rename_i hhead
      cases j with
      | zero => exact fun hmem => hhead (List.isPrefixOf_iff_prefix.mpr hmem)
      | succ j =>
        apply ih h
        rw [List.length_cons]
        omega

theorem isLeast_places_of_cut (h : cut m t = some (a, b)) : IsLeast (places m t) a.length := by
  constructor
  · refine ⟨b, ?_⟩
    rw [eq_append_of_cut h, List.append_assoc, List.drop_left]
  · intro j hj
    by_contra hlt
    apply not_mem_places_of_cutFrom h _ hj
    rw [List.length_nil]
    omega

theorem cut_eq_none_iff : cut m t = none ↔ ¬ m <:+: t := by
  rw [← contains_iff, contains, Bool.not_eq_true, Option.isSome_eq_false_iff,
    Option.isNone_iff_eq_none]

theorem exists_isLeast_places (h : m <:+: t) : ∃ i, IsLeast (places m t) i := by
  obtain ⟨⟨a, b⟩, hcut⟩ := Option.isSome_iff_exists.mp (contains_iff.mpr h)
  exact ⟨a.length, isLeast_places_of_cut hcut⟩

theorem cut_eq_some_iff :
    cut m t = some (a, b) ↔
      ∃ i, IsLeast (places m t) i ∧ a = t.take i ∧ b = t.drop (i + m.length) := by
  constructor
  · intro h
    refine ⟨a.length, isLeast_places_of_cut h, ?_, ?_⟩
    · rw [eq_append_of_cut h, List.append_assoc, List.take_left]
    · rw [eq_append_of_cut h, ← List.length_append, List.drop_left]
  · rintro ⟨i, hi, rfl, rfl⟩
    obtain ⟨⟨a, b⟩, hcut⟩ := Option.isSome_iff_exists.mp
      (contains_iff.mpr (infix_iff_exists_place.mpr ⟨i, hi.1⟩))
    have heq : i = a.length := hi.unique (isLeast_places_of_cut hcut)
    rw [hcut, heq, eq_append_of_cut hcut, ← List.length_append, List.drop_left, List.append_assoc,
      List.take_left]

end LabGrader.Text
