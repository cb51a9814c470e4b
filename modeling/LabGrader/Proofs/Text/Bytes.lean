import LabGrader.Text.Utf8
import Mathlib.Algebra.GroupWithZero.Nat
import Mathlib.Algebra.Order.BigOperators.Group.List
import Mathlib.Algebra.Order.Group.Nat

/-!
# Bytes of a text

The bytes of a text are those of its characters, of which every one has some. So the number of bytes
tells how much of a text has been kept.
-/

namespace LabGrader.Text

variable {s t : Text}

theorem byteCount_eq_sum (t : Text) : byteCount t = (t.map Char.utf8Size).sum := by
  have general : ∀ n, t.foldl (fun n c => n + c.utf8Size) n = n + (t.map Char.utf8Size).sum := by
    induction t with
    | nil => simp
    | cons c rest ih =>
      intro n
      rw [List.foldl_cons, ih, List.map_cons, List.sum_cons]
      omega
  rw [byteCount, general, Nat.zero_add]

@[simp] theorem byteCount_nil : byteCount [] = 0 := rfl

theorem byteCount_append (s t : Text) : byteCount (s ++ t) = byteCount s + byteCount t := by
  rw [byteCount_eq_sum, byteCount_eq_sum, byteCount_eq_sum, List.map_append, List.sum_append]

theorem byteCount_cons (c : Char) (t : Text) : byteCount (c :: t) = c.utf8Size + byteCount t := by
  rw [byteCount_eq_sum, byteCount_eq_sum, List.map_cons, List.sum_cons]

theorem byteCount_le_of_sublist (h : List.Sublist s t) : byteCount s ≤ byteCount t := by
  rw [byteCount_eq_sum, byteCount_eq_sum]
  exact (h.map _).sum_le_sum fun _ _ => Nat.zero_le _

theorem byteCount_of_ascii (h : ∀ c ∈ t, c.val ≤ 127) : byteCount t = t.length := by
  induction t with
  | nil => rfl
  | cons c rest ih =>
    have hc : c.utf8Size = 1 := Char.utf8Size_eq_one_iff.mpr (h c List.mem_cons_self)
    rw [byteCount_cons, hc, ih fun c' hc' => h c' (List.mem_cons_of_mem c hc'), List.length_cons,
      Nat.add_comm]

theorem byteCount_ofNat (n : Nat) : byteCount (ofNat n) = (ofNat n).length := by
  apply byteCount_of_ascii
  intro c hc
  have hdigit : c.isDigit = true := Nat.isDigit_of_mem_toDigits (by decide) (by decide) hc
  simp only [Char.isDigit, Bool.and_eq_true, decide_eq_true_eq] at hdigit
  exact UInt32.le_trans hdigit.2 (by decide)

theorem length_ofNat_mono {m n : Nat} (h : m ≤ n) : (ofNat m).length ≤ (ofNat n).length := by
  have hpos : 0 < (ofNat n).length := List.length_pos_iff.mpr Nat.toDigits_ne_nil
  have hn : n < 10 ^ (ofNat n).length := (Nat.length_toDigits_le_iff (by decide) hpos).mp le_rfl
  exact (Nat.length_toDigits_le_iff (by decide) hpos).mpr (h.trans_lt hn)

theorem length_utf8 (t : Text) : (utf8 t).length = byteCount t := by
  induction t with
  | nil => rfl
  | cons c t ih =>
    rw [byteCount_cons, ← ih]
    change (String.utf8EncodeChar c ++ utf8 t).length = _
    rw [List.length_append, String.length_utf8EncodeChar]

theorem utf8_append (s t : Text) : utf8 (s ++ t) = utf8 s ++ utf8 t := List.flatMap_append

theorem utf8_take (n : Nat) (t : Text) :
    utf8 (t.take n) = (utf8 t).take (byteCount (t.take n)) := by
  have hsplit : utf8 t = utf8 (t.take n) ++ utf8 (t.drop n) := by
    rw [← utf8_append, List.take_append_drop]
  rw [hsplit, List.take_left' (length_utf8 _)]

theorem byteCount_pos (h : t ≠ []) : 0 < byteCount t := by
  obtain ⟨c, t, rfl⟩ := List.exists_cons_of_ne_nil h
  have hc := c.utf8Size_pos
  rw [byteCount_cons]
  omega

theorem byteCount_take_eq_iff (n : Nat) (t : Text) :
    byteCount (t.take n) = byteCount t ↔ t.length ≤ n := by
  have hsum : byteCount t = byteCount (t.take n) + byteCount (t.drop n) := by
    rw [← byteCount_append, List.take_append_drop]
  constructor
  · intro h
    by_contra hlong
    have hdrop : t.drop n ≠ [] := fun hnil => hlong (List.drop_eq_nil_iff.mp hnil)
    have hpos := byteCount_pos hdrop
    omega
  · intro h
    rw [List.take_of_length_le h]

end LabGrader.Text
