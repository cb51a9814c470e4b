import LabGrader.Number.Decimal
import LabGrader.Proofs.Number.Exact
import Mathlib.Data.Rat.Floor
import Mathlib.Tactic.Positivity
import Mathlib.Tactic.Ring

/-!
# Where rounding overflows

A fraction is rounded to an infinity if it is at least half a last digit above the largest number of
the format. Every smaller fraction is rounded to a finite number, and nothing to what is no number.
-/

namespace LabGrader

theorem two_zpow_eq (n : Int) : (2 : Rat) ^ n = 2 * 2 ^ (n - 1) := by
  rw [mul_comm, ← zpow_add_one₀ two_ne_zero, Int.sub_add_cancel]

theorem two_zpow_pos (n : Int) : (0 : Rat) < 2 ^ n := zpow_pos two_pos n

theorem two_zpow_mono {m n : Int} (h : m ≤ n) : (2 : Rat) ^ m ≤ 2 ^ n :=
  zpow_le_zpow_right₀ one_le_two h

namespace BinaryFormat

section NearestEven
variable {x : Rat} {n : Int}

theorem floor_le_nearestEven (x : Rat) : ⌊x⌋ ≤ nearestEven x := by
  change x.floor ≤ nearestEven x
  unfold nearestEven
  dsimp only
  split_ifs <;> omega

theorem nearestEven_le (x : Rat) : (nearestEven x : Rat) ≤ x + 1 / 2 := by
  have hfloor : (x.floor : Rat) ≤ x := Int.floor_le x
  unfold nearestEven
  dsimp only
  split_ifs <;> push_cast <;> linarith

theorem le_nearestEven (h : (n : Rat) ≤ x) : n ≤ nearestEven x :=
  (Int.le_floor.mpr h).trans (floor_le_nearestEven x)

/-- An even number is reached from half a digit below it. -/
theorem le_nearestEven_iff (hn : n % 2 = 0) : n ≤ nearestEven x ↔ (n : Rat) - 1 / 2 ≤ x := by
  constructor
  · intro h
    have hcast : (n : Rat) ≤ nearestEven x := by exact_mod_cast h
    linarith [nearestEven_le x]
  · intro h
    rcases le_or_gt (n : Rat) x with hle | hlt
    · exact le_nearestEven hle
    · have hfloor : ⌊x⌋ = n - 1 := by
        apply Int.floor_eq_iff.mpr
        push_cast
        constructor <;> linarith
      change x.floor = n - 1 at hfloor
      have hrest : ¬ x - (x.floor : Rat) < 1 / 2 := by
        rw [hfloor]
        push_cast
        linarith
      unfold nearestEven
      dsimp only
      rw [if_neg hrest]
      split_ifs <;> omega

end NearestEven

section Log2
variable {q : Rat}

theorem exists_binary_digits (hq : 0 < q) :
    (2 : Rat) ^ ((q.num.natAbs.log2 : Int) - q.den.log2 - 1) ≤ q ∧
      q < (2 : Rat) ^ ((q.num.natAbs.log2 : Int) - q.den.log2 + 1) := by
  have hnum : q.num.natAbs ≠ 0 := Int.natAbs_ne_zero.mpr (Rat.num_ne_zero.mpr hq.ne')
  generalize hn : q.num.natAbs = n at hnum ⊢
  have hvalue : q * q.den = n := by
    rw [Rat.mul_den_eq_num, ← hn, Nat.cast_natAbs, abs_of_pos (Rat.num_pos.mpr hq)]
  have hnlow : (2 : Rat) ^ (n.log2 : Int) ≤ n := by exact_mod_cast Nat.log2_self_le hnum
  have hnhigh : (n : Rat) < (2 : Rat) ^ ((n.log2 : Int) + 1) := by
    exact_mod_cast @Nat.lt_log2_self n
  have hdlow : (2 : Rat) ^ (q.den.log2 : Int) ≤ q.den := by
    exact_mod_cast Nat.log2_self_le q.den_nz
  have hdhigh : (q.den : Rat) < (2 : Rat) ^ ((q.den.log2 : Int) + 1) := by
    exact_mod_cast @Nat.lt_log2_self q.den
  constructor
  · rw [sub_sub, zpow_sub₀ two_ne_zero, div_le_iff₀ (two_zpow_pos _)]
    calc (2 : Rat) ^ (n.log2 : Int) ≤ q * q.den := hnlow.trans_eq hvalue.symm
      _ ≤ q * 2 ^ ((q.den.log2 : Int) + 1) := mul_le_mul_of_nonneg_left hdhigh.le hq.le
  · rw [sub_add_eq_add_sub, zpow_sub₀ two_ne_zero, lt_div_iff₀ (two_zpow_pos _)]
    calc q * 2 ^ (q.den.log2 : Int) ≤ q * q.den := mul_le_mul_of_nonneg_left hdlow hq.le
      _ < 2 ^ ((n.log2 : Int) + 1) := hvalue.trans_lt hnhigh

theorem two_zpow_log2_le (hq : 0 < q) : (2 : Rat) ^ log2 q ≤ q := by
  unfold log2
  dsimp only
  split
  · assumption
  · exact (exists_binary_digits hq).1

theorem lt_two_zpow_log2 (hq : 0 < q) : q < (2 : Rat) ^ (log2 q + 1) := by
  unfold log2
  dsimp only
  split
  · exact (exists_binary_digits hq).2
  · rename_i h
    rw [Int.sub_add_cancel]
    exact lt_of_not_ge h

end Log2

/-- Half a last digit above the largest number of the format. -/
def overflow (f : BinaryFormat) : Rat :=
  (2 : Rat) ^ f.ceilingExponent - (2 : Rat) ^ (f.ceilingExponent - f.precision - 1)

/-- A format with at least one digit whose least positive number is far below the ceiling. -/
structure Wide (f : BinaryFormat) : Prop where
  precision_pos : 0 < f.precision
  least_le : f.leastExponent ≤ f.ceilingExponent - f.precision
  least_nonpos : f.leastExponent ≤ 0
  ceiling_pos : 0 < f.ceilingExponent

theorem wide_binary64 : binary64.Wide := ⟨by decide, by decide, by decide, by decide⟩

section Overflow
variable {f : BinaryFormat} {q : Rat}

theorem lastExponent_eq (hf : f.Wide) (hlog : f.ceilingExponent - 1 ≤ log2 q) :
    f.lastExponent q = log2 q + 1 - f.precision := by
  have hleast := hf.least_le
  unfold lastExponent
  omega

theorem lastExponent_lt (hf : f.Wide) (hlog : log2 q < f.ceilingExponent) :
    f.lastExponent q < f.ceilingExponent := by
  have hleast := hf.least_le
  have hprecision := hf.precision_pos
  unfold lastExponent
  omega

theorem ceiling_le_nearest (hf : f.Wide) (hlog : f.ceilingExponent ≤ log2 q) (hq : 0 < q) :
    (2 : Rat) ^ f.ceilingExponent ≤ f.nearest q := by
  have hlast : f.lastExponent q = log2 q + 1 - f.precision := lastExponent_eq hf (by omega)
  obtain ⟨p, hp⟩ := Nat.exists_eq_succ_of_ne_zero hf.precision_pos.ne'
  have hweight : (2 : Rat) ^ log2 q = ((2 ^ p : Int) : Rat) * 2 ^ f.lastExponent q := by
    push_cast
    rw [← zpow_natCast, ← zpow_add₀ two_ne_zero, hlast, hp]
    congr 1
    push_cast
    ring
  have hdigits : (2 ^ p : Int) ≤ nearestEven (q / 2 ^ f.lastExponent q) := by
    apply le_nearestEven
    rw [le_div_iff₀ (two_zpow_pos _), ← hweight]
    exact two_zpow_log2_le hq
  calc (2 : Rat) ^ f.ceilingExponent ≤ 2 ^ log2 q := two_zpow_mono hlog
    _ = ((2 ^ p : Int) : Rat) * 2 ^ f.lastExponent q := hweight
    _ ≤ f.nearest q := by
        apply mul_le_mul_of_nonneg_right _ (two_zpow_pos _).le
        exact_mod_cast hdigits

/-- Just below the ceiling the last digit decides. -/
theorem ceiling_le_nearest_iff_of_log2 (hf : f.Wide) (hlog : log2 q = f.ceilingExponent - 1) :
    (2 : Rat) ^ f.ceilingExponent ≤ f.nearest q ↔ f.overflow ≤ q := by
  have hlast : f.lastExponent q = f.ceilingExponent - f.precision := by
    rw [lastExponent_eq hf hlog.ge, hlog, Int.sub_add_cancel]
  have hceiling : (2 : Rat) ^ f.ceilingExponent =
      ((2 ^ f.precision : Int) : Rat) * 2 ^ f.lastExponent q := by
    push_cast
    rw [← zpow_natCast, ← zpow_add₀ two_ne_zero, hlast]
    congr 1
    ring
  have hhalf : (2 : Rat) ^ f.lastExponent q =
      2 * 2 ^ (f.ceilingExponent - f.precision - 1) := by
    rw [hlast]
    exact two_zpow_eq _
  have heven : (2 ^ f.precision : Int) % 2 = 0 := by
    obtain ⟨p, hp⟩ := Nat.exists_eq_succ_of_ne_zero hf.precision_pos.ne'
    rw [hp, pow_succ]
    exact Int.mul_emod_left _ _
  calc (2 : Rat) ^ f.ceilingExponent ≤ f.nearest q
      ↔ (2 ^ f.precision : Int) ≤ nearestEven (q / 2 ^ f.lastExponent q) := by
        rw [hceiling, nearest, mul_le_mul_iff_left₀ (two_zpow_pos _), Int.cast_le]
    _ ↔ ((2 ^ f.precision : Int) : Rat) - 1 / 2 ≤ q / 2 ^ f.lastExponent q :=
        le_nearestEven_iff heven
    _ ↔ f.overflow ≤ q := by
        rw [le_div_iff₀ (two_zpow_pos _), sub_mul, ← hceiling, hhalf, overflow]
        ring_nf

theorem overflow_le_ceiling (f : BinaryFormat) : f.overflow ≤ (2 : Rat) ^ f.ceilingExponent :=
  sub_le_self _ (two_zpow_pos _).le

theorem half_ceiling_le_overflow (hf : f.Wide) :
    (2 : Rat) ^ (f.ceilingExponent - 1) ≤ f.overflow := by
  have hprecision := hf.precision_pos
  have hhalf : (2 : Rat) ^ (f.ceilingExponent - f.precision - 1) ≤ 2 ^ (f.ceilingExponent - 1) :=
    two_zpow_mono (by omega)
  rw [overflow, two_zpow_eq f.ceilingExponent]
  linarith

theorem one_le_overflow (hf : f.Wide) : 1 ≤ f.overflow := by
  have hceiling := hf.ceiling_pos
  have hone : (1 : Rat) ≤ 2 ^ (f.ceilingExponent - 1) := one_le_zpow₀ one_le_two (by omega)
  exact hone.trans (half_ceiling_le_overflow hf)

theorem nearest_lt_ceiling (hf : f.Wide) (hlog : log2 q < f.ceilingExponent)
    (hsmall : q < (2 : Rat) ^ (f.ceilingExponent - 1)) :
    f.nearest q < (2 : Rat) ^ f.ceilingExponent := by
  have hweight : (2 : Rat) ^ f.lastExponent q ≤ 2 ^ (f.ceilingExponent - 1) :=
    two_zpow_mono (Int.le_sub_one_of_lt (lastExponent_lt hf hlog))
  calc f.nearest q ≤ (q / 2 ^ f.lastExponent q + 1 / 2) * 2 ^ f.lastExponent q :=
        mul_le_mul_of_nonneg_right (nearestEven_le _) (two_zpow_pos _).le
    _ = q + 2 ^ f.lastExponent q / 2 := by
        rw [add_mul, div_mul_cancel₀ q (two_zpow_pos _).ne']
        ring
    _ < 2 * (2 : Rat) ^ (f.ceilingExponent - 1) := by linarith [two_zpow_pos (f.lastExponent q)]
    _ = (2 : Rat) ^ f.ceilingExponent := (two_zpow_eq _).symm

theorem ceiling_le_nearest_iff (hf : f.Wide) (hq : 0 < q) :
    (2 : Rat) ^ f.ceilingExponent ≤ f.nearest q ↔ f.overflow ≤ q := by
  rcases lt_trichotomy (log2 q) (f.ceilingExponent - 1) with hbelow | hjust | habove
  · have hsmall : q < (2 : Rat) ^ (f.ceilingExponent - 1) :=
      (lt_two_zpow_log2 hq).trans_le (two_zpow_mono hbelow)
    have hnearest := nearest_lt_ceiling hf (by omega) hsmall
    have hoverflow := hsmall.trans_le (half_ceiling_le_overflow hf)
    exact iff_of_false (not_le_of_gt hnearest) (not_le_of_gt hoverflow)
  · exact ceiling_le_nearest_iff_of_log2 hf hjust
  · have hlog : f.ceilingExponent ≤ log2 q := by omega
    have hlarge : (2 : Rat) ^ f.ceilingExponent ≤ q :=
      (two_zpow_mono hlog).trans (two_zpow_log2_le hq)
    exact iff_of_true (ceiling_le_nearest hf hlog hq) ((overflow_le_ceiling f).trans hlarge)

theorem ratAbs_eq (q : Rat) : q.abs = |q| := by
  unfold Rat.abs
  split
  · rename_i hq
    exact (abs_of_nonneg hq).symm
  · rename_i hq
    exact (abs_of_neg (lt_of_not_ge hq)).symm

theorem isFinite_round_iff (hf : f.Wide) (q : Rat) :
    (f.round q).isFinite = true ↔ |q| < f.overflow := by
  unfold round
  split
  · rename_i hzero
    rw [hzero, abs_zero]
    exact iff_of_true rfl (zero_lt_one.trans_le (one_le_overflow hf))
  · rename_i hzero
    have hiff := ceiling_le_nearest_iff hf (abs_pos.mpr hzero)
    simp only [ratAbs_eq]
    split
    · rename_i hlarge
      exact iff_of_false Bool.false_ne_true (not_lt_of_ge (hiff.mp hlarge))
    · rename_i hsmall
      have hlt := lt_of_not_ge (mt hiff.mpr hsmall)
      split
      · exact iff_of_true (Number.isFinite_zero _) hlt
      · exact iff_of_true rfl hlt

end Overflow

end BinaryFormat

namespace Text

theorem lt_ten_pow_length (n : Nat) : n < 10 ^ (ofNat n).length := by
  have hpos : 0 < (ofNat n).length := List.length_pos_iff.mpr Nat.toDigits_ne_nil
  exact (Nat.length_toDigits_le_iff (by decide) hpos).mp le_rfl

theorem ten_pow_length_le {n : Nat} (hn : n ≠ 0) : 10 ^ ((ofNat n).length - 1) ≤ n := by
  by_contra hlt
  rcases Nat.eq_zero_or_pos ((ofNat n).length - 1) with hone | hmore
  · rw [hone] at hlt
    omega
  · have hlength := (Nat.length_toDigits_le_iff (by decide) hmore).mpr (Nat.lt_of_not_le hlt)
    change (ofNat n).length ≤ (ofNat n).length - 1 at hlength
    omega

end Text

namespace Decimal

variable {f : BinaryFormat} {d : Decimal}

theorem magnitude_lt (d : Decimal) :
    d.magnitude < (10 : Rat) ^ ((Text.ofNat d.digits).length + d.exponent) := by
  rw [magnitude, zpow_add₀ (by norm_num)]
  apply mul_lt_mul_of_pos_right _ (zpow_pos (by norm_num) _)
  exact_mod_cast Text.lt_ten_pow_length d.digits

theorem le_magnitude (h : d.digits ≠ 0) :
    (10 : Rat) ^ ((Text.ofNat d.digits).length + d.exponent - 1) ≤ d.magnitude := by
  have hpos : 0 < (Text.ofNat d.digits).length := List.length_pos_iff.mpr Nat.toDigits_ne_nil
  have hexponent : ((Text.ofNat d.digits).length + d.exponent - 1 : Int) =
      ((Text.ofNat d.digits).length - 1 : Nat) + d.exponent := by omega
  rw [magnitude, hexponent, zpow_add₀ (by norm_num)]
  apply mul_le_mul_of_nonneg_right _ (zpow_nonneg (by norm_num) _)
  exact_mod_cast Text.ten_pow_length_le h

theorem magnitude_nonneg (d : Decimal) : 0 ≤ d.magnitude :=
  mul_nonneg d.digits.cast_nonneg (zpow_nonneg (by norm_num) _)

theorem overflow_le_magnitude (hf : f.Wide) (hdigits : d.digits ≠ 0)
    (hlarge : f.ceilingExponent ≤ 3 * ((Text.ofNat d.digits).length + d.exponent - 1)) :
    f.overflow ≤ d.magnitude := by
  have hceiling := hf.ceiling_pos
  obtain ⟨k, hk⟩ := Int.eq_ofNat_of_zero_le
    (by omega : 0 ≤ (Text.ofNat d.digits).length + d.exponent - 1)
  have hlow := le_magnitude hdigits
  rw [hk, zpow_natCast] at hlow
  calc f.overflow ≤ (2 : Rat) ^ f.ceilingExponent := BinaryFormat.overflow_le_ceiling f
    _ ≤ (2 : Rat) ^ (3 * (k : Int)) := two_zpow_mono (by omega)
    _ = (8 : Rat) ^ k := by
        rw [zpow_mul]
        norm_num
    _ ≤ (10 : Rat) ^ k := pow_le_pow_left₀ (by norm_num) (by norm_num) k
    _ ≤ d.magnitude := hlow

theorem magnitude_lt_overflow (hf : f.Wide)
    (hsmall : 3 * ((Text.ofNat d.digits).length + d.exponent) < f.leastExponent - 1) :
    d.magnitude < f.overflow := by
  have hleast := hf.least_nonpos
  calc d.magnitude < (10 : Rat) ^ ((Text.ofNat d.digits).length + d.exponent) := magnitude_lt d
    _ ≤ 1 := zpow_le_one_of_nonpos₀ (by norm_num) (by omega)
    _ ≤ f.overflow := BinaryFormat.one_le_overflow hf

/-- What the number of digits alone settles is settled as the rounding would. -/
theorem isFinite_toNumber_iff (hf : f.Wide) (d : Decimal) :
    (d.toNumber f).isFinite = true ↔ d.magnitude < f.overflow := by
  unfold toNumber
  split
  · rename_i hdigits
    rw [magnitude, hdigits, Nat.cast_zero, zero_mul]
    exact iff_of_true (Number.isFinite_zero _)
      (zero_lt_one.trans_le (BinaryFormat.one_le_overflow hf))
  · rename_i hdigits
    dsimp only
    split
    · rename_i hlarge
      exact iff_of_false Bool.false_ne_true (not_lt_of_ge (overflow_le_magnitude hf hdigits hlarge))
    · split
      · rename_i hsmall
        exact iff_of_true (Number.isFinite_zero _) (magnitude_lt_overflow hf hsmall)
      · have hround := BinaryFormat.isFinite_round_iff hf d.magnitude
        rw [abs_of_nonneg d.magnitude_nonneg] at hround
        split
        · rw [Number.isFinite_negate, hround]
        · exact hround

end Decimal

namespace Number

variable {f : BinaryFormat} {x y : Number} {a b : Rat}

/-- Texts that are read as something else than a finite number: the words for the infinities and for
no number, and decimals that are too large. -/
inductive Boundless (f : BinaryFormat) (t : Text) : Prop where
  | infinity (h : Text.lowercase (takeSign t).2 = "inf".toList ∨
      Text.lowercase (takeSign t).2 = "infinity".toList)
  | nan (h : Text.lowercase (takeSign t).2 = "nan".toList)
  | large {d : Decimal} (hread : readDecimal? (takeSign t).1 (takeSign t).2 = some d)
      (hlarge : f.overflow ≤ d.magnitude)

theorem boundless_iff (hf : f.Wide) (t : Text) :
    Boundless f t ↔ ∃ x, read? f t = some x ∧ x.isFinite = false := by
  have hdecimal (d : Decimal) : (d.toNumber f).isFinite = false ↔ f.overflow ≤ d.magnitude := by
    rw [← Bool.not_eq_true, Decimal.isFinite_toNumber_iff hf, not_lt]
  unfold read?
  dsimp only
  split
  · rename_i hword
    exact iff_of_true (.infinity hword) ⟨_, rfl, rfl⟩
  · rename_i hword
    split
    · rename_i hnan
      exact iff_of_true (.nan hnan) ⟨_, rfl, rfl⟩
    · rename_i hnan
      constructor
      · rintro (hinfinity | hno | ⟨hread, hlarge⟩)
        · exact absurd hinfinity hword
        · exact absurd hno hnan
        · exact ⟨_, by rw [hread]; rfl, (hdecimal _).mpr hlarge⟩
      · rintro ⟨x, hread, hfinite⟩
        obtain ⟨d, hd, rfl⟩ := Option.map_eq_some_iff.mp hread
        exact .large hd ((hdecimal d).mp hfinite)

theorem isFinite_add (hf : f.Wide) (hx : x.value? = some a) (hy : y.value? = some b)
    (hsum : |a + b| < f.overflow) : (add f.round x y).isFinite = true := by
  rcases value?_eq_some_iff.mp hx with rfl | ⟨rfl, rfl⟩
  · rcases value?_eq_some_iff.mp hy with rfl | ⟨rfl, rfl⟩
    · by_cases hzero : a + b = 0
      · simp [add, hzero, isFinite, value?]
      · simp only [add, if_neg hzero]
        exact (BinaryFormat.isFinite_round_iff hf _).mpr hsum
    · rfl
  · rcases value?_eq_some_iff.mp hy with rfl | ⟨rfl, rfl⟩
    · rfl
    · rfl

theorem isFinite_sub (hf : f.Wide) (hx : x.value? = some a) (hy : y.value? = some b)
    (hdifference : |a - b| < f.overflow) : (sub f.round x y).isFinite = true := by
  rw [sub_eq_add_neg] at hdifference
  exact isFinite_add hf hx (value?_negate hy) hdifference

end Number

end LabGrader
