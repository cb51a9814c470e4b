import LabGrader.Judge.Inquiry
import LabGrader.Proofs.Judge.Retry
import Mathlib.Order.Nat

/-!
# How an inquiry ends

Some attempts settle an inquiry, at the latest the one after the last retry. The inquiry ends with
the first of them. Up to there every round adds a question and a pause to the log, and the number of
retries is the number of rounds.
-/

namespace LabGrader

/-- A turn that brings no reply in time. -/
def Turn.Late (limit : Duration) (turn : Turn) : Prop :=
  turn.reply = none ∨ Turn.patience limit < turn.delay

theorem Turn.under_of_late {limit : Duration} {turn : Turn} (h : turn.Late limit) :
    (turn.under limit 0).1 = .failed (.timeout limit) := by
  unfold Turn.under
  cases hr : turn.reply with
  | none => rfl
  | some a =>
    have hdelay : ¬ 0 + turn.delay ≤ Turn.patience limit := by
      have := h.resolve_left (by simp [hr])
      omega
    simp only [hdelay, if_false]

theorem Turn.under_of_not_late {limit : Duration} {turn : Turn} (h : ¬ turn.Late limit) :
    turn.reply = some (turn.under limit 0).1 := by
  obtain ⟨hr, hdelay⟩ := not_or.mp h
  obtain ⟨a, ha⟩ := Option.ne_none_iff_exists'.mp hr
  have hin : 0 + turn.delay ≤ Turn.patience limit := by omega
  simp only [Turn.under, ha, hin, if_true]

namespace Inquiry

variable (i : Inquiry)

/-- An attempt after which the judge is not asked again. -/
def Settles (n : Nat) : Prop :=
  (∃ answer, i.attempt n = .answered answer) ∨
    (∃ e, i.attempt n = .failed e ∧ e.isRetryable = false) ∨
      (∃ message, i.attempt n = .panicked message) ∨ n = i.policy.maxRetries

/-- The log of the first `n` rounds, if none of them is the last. -/
def logged (n : Nat) : List Deed :=
  (List.range n).flatMap fun m =>
    [.asked i.question, .paused (i.policy.pause (m + 1) (i.draw (m + 1)))]

def after (n : Nat) : Progress := ⟨UInt32.ofNat n, i.logged n⟩

variable {i}

theorem logged_succ (n : Nat) :
    i.logged (n + 1) = i.logged n ++ [.asked i.question,
      .paused (i.policy.pause (n + 1) (i.draw (n + 1)))] := by
  simp only [logged, List.range_succ, List.flatMap_append, List.flatMap_singleton]

theorem calls_after (n : Nat) : (i.after n).calls = n := by
  unfold after Progress.calls
  induction n with
  | zero => rfl
  | succ n ih => rw [logged_succ, List.countP_append, ih]; rfl

theorem retries_after {n : Nat} (h : n ≤ i.policy.maxRetries) :
    (i.after n).retries.toNat = n :=
  UInt32.toNat_ofNat_of_lt' (lt_of_le_of_lt h i.fits)

theorem retries_after_add_one (n : Nat) : (i.after n).retries + 1 = (i.after (n + 1)).retries :=
  (UInt32.ofNat_add n 1).symm

theorem asksAgain_iff {n : Nat} (h : n ≤ i.policy.maxRetries) :
    i.policy.asksAgain n (i.attempt n) = true ↔ ¬ i.Settles n := by
  unfold Settles
  cases ha : i.attempt n with
  | answered => simp [RetryPolicy.asksAgain]
  | panicked => simp [RetryPolicy.asksAgain]
  | failed e =>
    have hn : n < i.policy.maxRetries ↔ n ≠ i.policy.maxRetries := by omega
    simp [RetryPolicy.asksAgain, hn]

theorem settles_maxRetries : i.Settles i.policy.maxRetries := .inr (.inr (.inr rfl))

theorem round_after {n : Nat} (h : n ≤ i.policy.maxRetries) (hs : ¬ i.Settles n) :
    i.round (i.after n) = .going (i.after (n + 1)) := by
  have hn : n + 1 ≤ i.policy.maxRetries := by
    by_contra hlt
    have heq : n = i.policy.maxRetries := by omega
    exact hs (heq ▸ settles_maxRetries)
  simp only [round, calls_after, retries_after h, (asksAgain_iff h).mpr hs, if_true,
    retries_after_add_one, retries_after hn]
  simp only [after, logged_succ, List.append_assoc, List.cons_append, List.nil_append]

theorem round_after_settles {n : Nat} (h : n ≤ i.policy.maxRetries) (hs : i.Settles n) :
    i.round (i.after n) = .ended (i.logged n ++ [.asked i.question]) (i.attempt n) := by
  have hlast : i.policy.asksAgain n (i.attempt n) = false := by
    rw [← Bool.not_eq_true, asksAgain_iff h]
    exact not_not.mpr hs
  simp only [round, calls_after, retries_after h, hlast, if_false, Bool.false_eq_true]
  rfl

section First

variable {k : Nat} (hk : IsLeast {n | i.Settles n} k)
include hk

theorem first_le : k ≤ i.policy.maxRetries := hk.2 settles_maxRetries

theorem not_settles {n : Nat} (h : n < k) : ¬ i.Settles n :=
  fun hs => absurd (hk.2 hs) (Nat.not_le.mpr h)

theorem standing_of_le {n : Nat} (h : n ≤ k) : i.standing n = .going (i.after n) := by
  induction n with
  | zero => rfl
  | succ n ih =>
    have hn : n ≤ i.policy.maxRetries := by
      have := first_le hk
      omega
    rw [standing, ih (by omega)]
    exact round_after hn (not_settles hk h)

theorem standing_of_lt {n : Nat} (h : k < n) :
    i.standing n = .ended (i.logged k ++ [.asked i.question]) (i.attempt k) := by
  induction n, h using Nat.le_induction with
  | base =>
    rw [standing, standing_of_le hk le_rfl]
    exact round_after_settles (first_le hk) hk.1
  | succ n _ ih => rw [standing, ih]

/-- The conversation counts down what is left of the retries, the inquiry counts up. -/
theorem converseFrom_of_le {n left : Nat} (hn : n ≤ k) (hleft : n + left = i.policy.maxRetries) :
    converseFrom i.policy i.attempt left n =
      ⟨i.attempt k, k - n + 1, List.range' (n + 1) (k - n)⟩ := by
  have hle : n ≤ i.policy.maxRetries := by omega
  have hfirst := first_le hk
  induction left generalizing n with
  | zero =>
    -- no retry is left, so the attempt settles the inquiry
    obtain rfl : n = k := by omega
    simp [converseFrom]
  | succ left ih =>
    rw [converseFrom]
    by_cases hs : i.Settles n
    · obtain rfl : n = k := le_antisymm hn (hk.2 hs)
      have hlast : ¬ i.policy.asksAgain n (i.attempt n) = true := by
        rw [asksAgain_iff hle]
        exact not_not.mpr hs
      simp [hlast]
    · have hlt : n < k := lt_of_le_of_ne hn fun h => hs (h ▸ hk.1)
      have hcount : k - n = k - (n + 1) + 1 := by omega
      rw [if_pos ((asksAgain_iff hle).mpr hs), ih hlt (by omega) (by omega), hcount,
        List.range'_succ]

end First

theorem exists_first (i : Inquiry) : ∃ k, IsLeast {n | i.Settles n} k := by
  classical
  have hex : ∃ n, i.Settles n := ⟨_, settles_maxRetries⟩
  exact ⟨_, Nat.isLeast_find hex⟩

/-- An inquiry ends with the first attempt that settles it, and that is its result. The question is
the same each time, the pause before a retry is the one for that retry, and nothing happens after the
end. The conversation ends in the same way. An attempt that takes longer than the limit is a timeout. -/
theorem ends_with_first_settling (i : Inquiry) :
    ∃ k, IsLeast {n | i.Settles n} k ∧ k ≤ i.policy.maxRetries ∧
      (∀ n ≤ k, i.standing n = .going (i.after n) ∧ (i.after n).retries.toNat = n ∧
        (i.after n).calls = n) ∧
      (∀ n, k < n →
        i.standing n = .ended (i.logged k ++ [.asked i.question]) (i.attempt k)) ∧
      (i.logged k ++ [Deed.asked i.question]).countP Deed.isAsked = k + 1 ∧
      converse i.policy i.attempt = ⟨i.attempt k, k + 1, List.range' 1 k⟩ ∧
      ∀ n, ((i.judge n i.question).Late i.limit → i.attempt n = .failed (.timeout i.limit) ∧
          (JudgeError.timeout i.limit).isRetryable = true) ∧
        (¬ (i.judge n i.question).Late i.limit →
          (i.judge n i.question).reply = some (i.attempt n)) := by
  obtain ⟨k, hk⟩ := i.exists_first
  refine ⟨k, hk, first_le hk, ?going, ?ended, ?calls, ?converse, ?limit⟩
  case going =>
    intro n hn
    exact ⟨standing_of_le hk hn, retries_after (hn.trans (first_le hk)), calls_after n⟩
  case ended => exact fun n hn => standing_of_lt hk hn
  case calls =>
    have hcalls : (i.logged k).countP Deed.isAsked = k := calls_after k
    rw [List.countP_append, hcalls]
    rfl
  case converse => exact converseFrom_of_le hk (Nat.zero_le k) (Nat.zero_add _)
  case limit => exact fun n => ⟨fun h => ⟨Turn.under_of_late h, rfl⟩, Turn.under_of_not_late⟩

/-- The judge hangs, then says nothing, then answers; one retry is not enough to hear that. -/
example :
    let script : Script := [⟨0, none⟩, ⟨1, some (.failed .emptyResponse)⟩,
      ⟨1, some (.answered ['A'])⟩]
    let q : Question := ⟨['G'], ['S']⟩
    let i : Inquiry := ⟨q, ⟨1, .ofSeconds 1, .ofSeconds 30⟩, .ofSeconds 5, fun n _ => script.turn n,
      fun _ => 700, by decide⟩
    i.standing 2 = .ended [.asked q, .paused 700, .asked q] (.failed .emptyResponse) := by
  decide

end Inquiry

end LabGrader
