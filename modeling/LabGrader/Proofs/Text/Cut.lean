import LabGrader.Text.Basic
import Mathlib.Data.List.Infix

/-!
# Cutting a text at a mark

A cut is at the first place where the mark stands. The marks here end in a character that they do
not hold elsewhere, so two of them cannot overlap: a text holds such a mark exactly if a part of it
does, as long as no part ends inside of a mark.
-/

namespace LabGrader.Text

variable {m w v a b : Text} {x : Char}

theorem cutFrom_append (seen : Text) (hm : m ≠ []) (h : ¬ m <:+: a ++ m.dropLast) (b : Text) :
    cutFrom m seen (a ++ m ++ b) = some (seen.reverse ++ a, b) := by
  induction a generalizing seen with
  | nil =>
    obtain ⟨c, m, rfl⟩ := List.exists_cons_of_ne_nil hm
    simp [cutFrom, List.isPrefixOf_iff_prefix]
  | cons c a ih =>
    have hlater : ¬ m <:+: a ++ m.dropLast := fun hinside => h (List.infix_cons hinside)
    -- what stands at the front is short enough to stand before the last character of the mark
    have hfront : ¬ m <+: c :: (a ++ m ++ b) := by
      intro hprefix
      have hpos := List.length_pos_iff.mpr hm
      have hshort : c :: a ++ m.dropLast <+: c :: (a ++ m ++ b) := by
        rw [List.cons_append, List.prefix_cons_inj, List.append_assoc, List.prefix_append_right_inj]
        exact (List.dropLast_prefix m).trans (List.prefix_append m b)
      refine h (List.prefix_of_prefix_length_le hprefix hshort ?_).isInfix
      simp
      omega
    rw [List.cons_append, List.cons_append, cutFrom, if_neg]
    · rw [ih (c :: seen) hlater]
      simp
    · rwa [List.isPrefixOf_iff_prefix]

/-- A mark with nothing of its kind before it is where the text is cut. -/
theorem cut_append (hm : m ≠ []) (h : ¬ m <:+: a ++ m.dropLast) (b : Text) :
    cut m (a ++ m ++ b) = some (a, b) := cutFrom_append [] hm h b

theorem eq_append_of_cutFrom {seen t : Text} (h : cutFrom m seen t = some (a, b)) :
    seen.reverse ++ t = a ++ m ++ b := by
  induction t generalizing seen with
  | nil =>
    unfold cutFrom at h
    split at h
    · rename_i hempty
      obtain ⟨rfl, rfl⟩ := Prod.mk.inj (Option.some.inj h)
      rw [List.isEmpty_iff.mp hempty, List.append_nil, List.append_nil]
    · cases h
  | cons c t ih =>
    unfold cutFrom at h
    split at h
    · rename_i hprefix
      obtain ⟨rfl, rfl⟩ := Prod.mk.inj (Option.some.inj h)
      rw [List.append_assoc,
        List.prefix_iff_eq_append.mp (List.isPrefixOf_iff_prefix.mp hprefix)]
    · have hlater := ih h
      rwa [List.reverse_cons, List.append_assoc] at hlater

theorem eq_append_of_cut {t : Text} (h : cut m t = some (a, b)) : t = a ++ m ++ b :=
  eq_append_of_cutFrom h

theorem isSome_cutFrom_iff {seen t : Text} : (cutFrom m seen t).isSome = true ↔ m <:+: t := by
  induction t generalizing seen with
  | nil => simp [cutFrom]
  | cons c t ih =>
    rw [cutFrom, List.infix_cons_iff, ← List.isPrefixOf_iff_prefix]
    split
    · rename_i hhead
      simp [hhead]
    · rename_i hhead
      simp [hhead, ih]

theorem contains_iff {t : Text} : contains t m = true ↔ m <:+: t := isSome_cutFrom_iff

theorem infix_append_iff_of_notMem (hv : x ∉ v) : w ++ [x] <:+: a ++ v ↔ w ++ [x] <:+: a := by
  constructor
  · intro h
    rcases List.infix_append_iff.mp h with hfront | hback | ⟨front, back, heq, hfront, hback⟩
    · exact hfront
    · exact absurd (hback.mem (by simp)) hv
    · rcases List.eq_nil_or_concat' back with rfl | ⟨back, y, rfl⟩
      · rw [heq, List.append_nil]
        exact hfront.isInfix
      · rw [← List.append_assoc] at heq
        obtain ⟨-, hlast⟩ := List.append_inj' heq rfl
        cases hlast
        exact absurd (hback.mem (by simp)) hv
  · exact fun h => List.infix_append_of_infix_left h

/-- A mark that reaches a place with its last character ends there or stands on one side of it. -/
theorem infix_append_cons_iff (hw : x ∉ w) :
    w ++ [x] <:+: a ++ x :: b ↔ w <:+ a ∨ w ++ [x] <:+: a ∨ w ++ [x] <:+: b := by
  constructor
  · intro h
    rcases List.infix_append_iff.mp h with hfront | hback | ⟨front, back, heq, hfront, hback⟩
    · exact Or.inr (Or.inl hfront)
    · rcases List.infix_cons_iff.mp hback with hhead | hinside
      · cases w with
        | nil => exact Or.inl List.nil_suffix
        | cons y w =>
          obtain ⟨rfl, -⟩ := List.cons_prefix_cons.mp hhead
          exact absurd List.mem_cons_self hw
      · exact Or.inr (Or.inr hinside)
    · cases back with
      | nil =>
        rw [heq, List.append_nil]
        exact Or.inr (Or.inl hfront.isInfix)
      | cons y back =>
        obtain ⟨rfl, -⟩ := List.cons_prefix_cons.mp hback
        rcases List.eq_nil_or_concat' back with rfl | ⟨back, z, rfl⟩
        · obtain ⟨rfl, -⟩ := List.append_inj' heq rfl
          exact Or.inl hfront
        · have hsplit : w ++ [y] = (front ++ y :: back) ++ [z] := by simpa using heq
          obtain ⟨rfl, -⟩ := List.append_inj' hsplit rfl
          exact absurd (by simp) hw
  · rintro (⟨before, rfl⟩ | hfront | hback)
    · exact ⟨before, b, by simp⟩
    · exact List.infix_append_of_infix_left hfront
    · exact List.infix_append_of_infix_right (List.infix_cons hback)

end LabGrader.Text
