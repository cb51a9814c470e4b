import LabGrader.Judge.Backoff
import LabGrader.Settings.Load
import Mathlib.Order.MinMax
import Mathlib.Order.Nat

/-!
# Bounds of a pause

As long as the longest pause has fewer than 2^64 milliseconds, nothing is lost on the way through 32
and 64 bits: a pause before any retry can be drawn, and lies between the ceiling, taken in numbers
without a limit, and the smaller one of the ceiling and ten milliseconds. The ceiling is not more
than the longest pause and does not fall from one retry to the next.
-/

namespace LabGrader

namespace RetryPolicy

variable {p : RetryPolicy} {retry retry' : Nat}

/-- The ceiling of a pause in whole milliseconds, in numbers without a limit. -/
def exactCeiling (p : RetryPolicy) (retry : Nat) : Nat :=
  min (p.baseDelay.nanoseconds * factor retry) p.maxDelay.nanoseconds / 1000000

section Words

theorem toNat_bit {place : UInt32} (h : place < 32) :
    ((1 : UInt32) <<< place).toNat = Nat.pow 2 place.toNat := by
  have hplace : place.toNat < 32 := UInt32.lt_iff_toNat_lt.mp h
  have hfits : 2 ^ place.toNat < 2 ^ 32 := Nat.pow_lt_pow_right (by decide) hplace
  rw [UInt32.toNat_shiftLeft, Nat.mod_eq_of_lt hplace, UInt32.toNat_one, Nat.one_shiftLeft,
    Nat.mod_eq_of_lt hfits]
  rfl

theorem toNat_wordFactor (retry : UInt32) : (wordFactor retry).toNat = factor retry.toNat := by
  by_cases hzero : retry = 0
  · rw [hzero]
    decide
  · have hpos : 1 ≤ retry.toNat :=
      Nat.pos_of_ne_zero fun h => hzero (UInt32.toNat_inj.mp h)
    have hplace : (retry - 1).toNat = retry.toNat - 1 :=
      UInt32.toNat_sub_of_le _ _ (UInt32.le_iff_toNat_le.mpr hpos)
    rw [wordFactor, if_neg hzero, bit?, factor]
    by_cases hfits : retry - 1 < 32
    · have hle : retry.toNat ≤ 32 := by
        have hlt : (retry - 1).toNat < 32 := UInt32.lt_iff_toNat_lt.mp hfits
        omega
      rw [if_pos hfits, if_pos hle, Option.getD_some, toNat_bit hfits, hplace]
    · have hlt : ¬ retry.toNat ≤ 32 := by
        intro hle
        apply hfits
        have hlt : (retry - 1).toNat < 32 := by omega
        exact UInt32.lt_iff_toNat_lt.mpr hlt
      rw [if_neg hfits, if_neg hlt, Option.getD_none]
      rfl

variable (hmax : p.maxDelay.nanoseconds < Nat.pow 2 64 * 1000000)
include hmax

/-- The longest pause is shorter than the longest span of time, so it does not matter that products
stop there. -/
theorem milliseconds_eq_exactCeiling (retry : Nat) :
    ((p.baseDelay.times (factor retry)).shorter p.maxDelay).milliseconds =
      p.exactCeiling retry := by
  have hlongest : p.maxDelay.nanoseconds ≤ Duration.longest.nanoseconds := by
    have hrange : Nat.pow 2 64 * 1000000 ≤ Duration.longest.nanoseconds := by decide
    omega
  simp only [exactCeiling, Duration.milliseconds, Duration.shorter, Duration.times]
  rw [Nat.min_assoc, Nat.min_eq_right hlongest]

theorem exactCeiling_lt (retry : Nat) : p.exactCeiling retry < Nat.pow 2 64 := by
  apply (Nat.div_lt_iff_lt_mul (by decide)).mpr
  exact lt_of_le_of_lt (min_le_right _ _) hmax

theorem ceiling_eq_exactCeiling (retry : Nat) : p.ceiling retry = p.exactCeiling retry := by
  rw [ceiling, milliseconds_eq_exactCeiling hmax, Nat.mod_eq_of_lt (exactCeiling_lt hmax retry)]

theorem toNat_wordCeiling (retry : UInt32) :
    (p.wordCeiling retry).toNat = p.exactCeiling retry.toNat := by
  rw [wordCeiling, toNat_wordFactor, milliseconds_eq_exactCeiling hmax, UInt64.toNat_ofNat',
    Nat.mod_eq_of_lt (exactCeiling_lt hmax _)]

end Words

theorem factor_mono (h : retry ≤ retry') : factor retry ≤ factor retry' := by
  have hlast : Nat.pow 2 31 ≤ Nat.pow 2 32 - 1 := by decide
  unfold factor
  split
  · rename_i hpower
    split
    · exact Nat.pow_le_pow_right (by decide) (Nat.sub_le_sub_right h 1)
    · exact (Nat.pow_le_pow_right (by decide) (Nat.sub_le_sub_right hpower 1)).trans hlast
  · rename_i hpower
    rw [if_neg fun h' => hpower (h.trans h')]

theorem exactCeiling_mono (h : retry ≤ retry') : p.exactCeiling retry ≤ p.exactCeiling retry' :=
  Nat.div_le_div_right (min_le_min_right _ (Nat.mul_le_mul_left _ (factor_mono h)))

theorem exactCeiling_mul_le (p : RetryPolicy) (retry : Nat) :
    p.exactCeiling retry * 1000000 ≤ p.maxDelay.nanoseconds :=
  (Nat.div_mul_le_self _ _).trans (min_le_right _ _)

theorem toNat_max (a b : UInt64) : (max a b).toNat = max a.toNat b.toNat := by
  change (if a ≤ b then b else a).toNat = _
  simp only [apply_ite UInt64.toNat, UInt64.le_iff_toNat_le, Nat.max_def]

theorem toNat_min (a b : UInt64) : (min a b).toNat = min a.toNat b.toNat := by
  change (if a ≤ b then a else b).toNat = _
  simp only [apply_ite UInt64.toNat, UInt64.le_iff_toNat_le, Nat.min_def]

theorem pause_between (p : RetryPolicy) (retry draw : Nat) :
    p.floor retry ≤ p.pause retry draw ∧ p.pause retry draw ≤ p.ceiling retry :=
  ⟨le_max_right _ _, max_le (min_le_right _ _) (min_le_left _ _)⟩

theorem exists_backoff_eq (hmax : p.maxDelay.nanoseconds < Nat.pow 2 64 * 1000000)
    (source : RandomSource) (retry : UInt32) :
    ∃ drawn ≤ p.exactCeiling retry.toNat,
      p.backoff source retry = some (.ofMilliseconds (p.pause retry.toNat drawn)) := by
  -- the range from zero to the ceiling is never empty
  obtain ⟨x, hx, -, hle⟩ := source.draws 0 (p.wordCeiling retry) UInt64.zero_le
  have hdrawn : x.toNat ≤ p.exactCeiling retry.toNat := by
    rw [← toNat_wordCeiling hmax]
    exact UInt64.le_iff_toNat_le.mp hle
  refine ⟨x.toNat, hdrawn, ?_⟩
  have hpause : p.pause retry.toNat x.toNat = (max x (min (p.wordCeiling retry) 10)).toNat := by
    rw [pause, floor, ceiling_eq_exactCeiling hmax, min_eq_left hdrawn, toNat_max, toNat_min,
      toNat_wordCeiling hmax]
    rfl
  rw [backoff, hx, Option.map_some, hpause]

end RetryPolicy

theorem Settings.maxDelay_load {env : Environment} {d : Folder} {file : Option Path} {s : Settings}
    (h : load env d file = .ok s) : s.retry.maxDelay = .ofSeconds 30 := by
  cases file with
  | none =>
    cases h
    rfl
  | some p =>
    unfold load at h
    simp only at h
    split at h
    · cases h
    · cases h
      rfl

/-- A pause can be drawn before every retry. It is as long as the smaller one of its ceiling and ten
milliseconds, at least, and as its ceiling, at most; so it is not longer than the longest pause. The
ceiling is the same in machine numbers and in numbers without a limit, and does not fall. The longest
pause in loaded settings is short enough for this. -/
theorem RetryPolicy.backoff_within_ceiling (p : RetryPolicy)
    (hmax : p.maxDelay.nanoseconds < Nat.pow 2 64 * 1000000) :
    (∀ (source : RandomSource) (retry : UInt32), ∃ drawn m,
      p.backoff source retry = some (.ofMilliseconds m) ∧ m = p.pause retry.toNat drawn ∧
      min (p.exactCeiling retry.toNat) 10 ≤ m ∧ m ≤ p.exactCeiling retry.toNat ∧
      (Duration.ofMilliseconds m).nanoseconds ≤ p.maxDelay.nanoseconds) ∧
    (∀ retry : UInt32, (wordFactor retry).toNat = factor retry.toNat ∧
      (p.wordCeiling retry).toNat = p.exactCeiling retry.toNat) ∧
    (∀ retry retry', retry ≤ retry' → p.exactCeiling retry ≤ p.exactCeiling retry') ∧
    ∀ env d file s, Settings.load env d file = .ok s → s.retry.maxDelay = .ofSeconds 30 := by
  refine ⟨?bounds, ?words, ?mono, ?load⟩
  case bounds =>
    intro source retry
    obtain ⟨drawn, -, hbackoff⟩ := exists_backoff_eq hmax source retry
    obtain ⟨hfloor, hceiling⟩ := p.pause_between retry.toNat drawn
    rw [floor, ceiling_eq_exactCeiling hmax] at hfloor
    rw [ceiling_eq_exactCeiling hmax] at hceiling
    refine ⟨drawn, _, hbackoff, rfl, hfloor, hceiling, ?_⟩
    exact (Nat.mul_le_mul_right _ hceiling).trans (p.exactCeiling_mul_le _)
  case words => exact fun retry => ⟨toNat_wordFactor retry, toNat_wordCeiling hmax retry⟩
  case mono => exact fun _ _ => exactCeiling_mono
  case load => exact fun _ _ _ _ => Settings.maxDelay_load

namespace Sample

/-- The longest pauses for which all milliseconds can still be counted. -/
def patient : RetryPolicy :=
  { baseDelay := .ofSeconds (Nat.pow 2 63), maxDelay := ⟨Nat.pow 2 64 * 1000000 - 1⟩ }

end Sample

theorem RetryPolicy.backoff_within_ceiling_at_limit :
    Sample.patient.maxDelay.nanoseconds < Nat.pow 2 64 * 1000000 ∧
    Sample.patient.exactCeiling 33 = Nat.pow 2 64 - 1 ∧
    Sample.patient.exactCeiling 32 ≤ Sample.patient.exactCeiling 33 ∧
    ∃ m, Sample.patient.backoff .largest 33 = some (.ofMilliseconds m) ∧
      10 ≤ m ∧ m ≤ Nat.pow 2 64 - 1 := by
  have hmax : Sample.patient.maxDelay.nanoseconds < Nat.pow 2 64 * 1000000 := by decide
  have hceiling : Sample.patient.exactCeiling 33 = Nat.pow 2 64 - 1 := by decide
  obtain ⟨hbounds, -, hmono, -⟩ := backoff_within_ceiling Sample.patient hmax
  obtain ⟨_, m, hbackoff, -, hfloor, htop, -⟩ := hbounds .largest 33
  change min (Sample.patient.exactCeiling 33) 10 ≤ m at hfloor
  change m ≤ Sample.patient.exactCeiling 33 at htop
  rw [hceiling] at hfloor htop
  exact ⟨hmax, hceiling, hmono 32 33 (by decide), m, hbackoff, hfloor, htop⟩

end LabGrader
