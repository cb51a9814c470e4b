import LabGrader.Proofs.Text.Bytes
import LabGrader.Text.Offset

/-!
# Characters and bytes in front of a cut

A character starts behind the bytes of those in front of it. Cut there, a text keeps just these.
-/

namespace LabGrader.Text

variable {seen s s' t : Text} {n k start : Nat}

theorem offsetFrom?_eq (start n : Nat) (t : Text) :
    offsetFrom? start n t = if n < t.length then some (start + byteCount (t.take n)) else none := by
  induction t generalizing start n with
  | nil => cases n <;> rfl
  | cons c t ih =>
    cases n with
    | zero => rfl
    | succ n =>
      rw [offsetFrom?, ih, List.take_succ_cons, byteCount_cons, List.length_cons, Nat.add_assoc]
      simp only [Nat.add_lt_add_iff_right]

theorem offset?_of_lt (h : n < t.length) : offset? n t = some (byteCount (t.take n)) := by
  rw [offset?, offsetFrom?_eq, if_pos h, Nat.zero_add]

theorem offset?_of_le (h : t.length ≤ n) : offset? n t = none := by
  rw [offset?, offsetFrom?_eq, if_neg (Nat.not_lt.mpr h)]

theorem eq_nil_of_byteCount (h : byteCount s = 0) : s = [] := by
  by_contra hne
  have hpos := byteCount_pos hne
  omega

theorem prefix_cons_byteCount_iff {c : Char} :
    s <+: c :: t ∧ byteCount s = k + 1 ↔
      ∃ u, s = c :: u ∧ u <+: t ∧ c.utf8Size + byteCount u = k + 1 := by
  constructor
  · rintro ⟨hfront, hbytes⟩
    cases s with
    | nil => cases hbytes
    | cons d u =>
      obtain ⟨rfl, hrest⟩ := List.cons_prefix_cons.mp hfront
      exact ⟨u, rfl, hrest, (byteCount_cons d u).symm.trans hbytes⟩
  · rintro ⟨u, rfl, hrest, hbytes⟩
    exact ⟨List.cons_prefix_cons.mpr ⟨rfl, hrest⟩, (byteCount_cons c u).trans hbytes⟩

/-- The walk along the text stops exactly behind one of its front parts. -/
theorem frontFrom?_eq_some_iff :
    frontFrom? seen k t = some s' ↔
      ∃ s, s' = seen.reverse ++ s ∧ s <+: t ∧ byteCount s = k := by
  fun_induction frontFrom? seen k t with
  | case1 seen t =>
    constructor
    · rintro ⟨⟩
      exact ⟨[], (List.append_nil _).symm, List.nil_prefix, rfl⟩
    · rintro ⟨s, rfl, -, hbytes⟩
      rw [eq_nil_of_byteCount hbytes, List.append_nil]
  | case2 seen k =>
    constructor
    · intro h
      cases h
    · rintro ⟨s, -, hfront, hbytes⟩
      rw [List.prefix_nil.mp hfront] at hbytes
      cases hbytes
  | case3 seen k c t hfits ih =>
    rw [ih]
    constructor
    · rintro ⟨u, rfl, hrest, hbytes⟩
      refine ⟨c :: u, by simp, prefix_cons_byteCount_iff.mpr ⟨u, rfl, hrest, ?_⟩⟩
      omega
    · rintro ⟨s, rfl, hfront⟩
      obtain ⟨u, rfl, hrest, hbytes⟩ := prefix_cons_byteCount_iff.mp hfront
      refine ⟨u, by simp, hrest, ?_⟩
      omega
  | case4 seen k c t hlarge =>
    constructor
    · intro h
      cases h
    · rintro ⟨s, -, hfront⟩
      obtain ⟨u, -, -, hbytes⟩ := prefix_cons_byteCount_iff.mp hfront
      omega

theorem front?_eq_some_iff : front? k t = some s ↔ s <+: t ∧ byteCount s = k := by
  rw [front?, frontFrom?_eq_some_iff]
  simp

theorem truncate?_eq (n : Nat) (t : Text) : truncate? n t = some (t.take n) := by
  unfold truncate?
  rcases Nat.lt_or_ge n t.length with hlong | hshort
  · rw [offset?_of_lt hlong]
    exact front?_eq_some_iff.mpr ⟨List.take_prefix n t, rfl⟩
  · rw [offset?_of_le hshort, List.take_of_length_le hshort]

end LabGrader.Text
