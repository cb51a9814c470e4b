import LabGrader.Judge.Retry

/-!
# Conversations with the judge

A conversation counts down the questions that are left; a task counts the retries it has made. The
equation here is about the second count, so that both can be followed side by side.
-/

namespace LabGrader

theorem RetryPolicy.asksAgain_of_le {p : RetryPolicy} {retries : Nat} (h : p.maxRetries ≤ retries)
    (a : Attempt) : p.asksAgain retries a = false := by
  cases a <;> simp [asksAgain, h]

/-- How a conversation ends after a number of retries: with this attempt or as it ends later. -/
theorem converseFrom_result (p : RetryPolicy) (attempt : Nat → Attempt) (k : Nat) :
    (converseFrom p attempt (p.maxRetries - k) k).result =
      if p.asksAgain k (attempt k) then
        (converseFrom p attempt (p.maxRetries - (k + 1)) (k + 1)).result
      else attempt k := by
  by_cases hk : k < p.maxRetries
  · have hleft : p.maxRetries - k = p.maxRetries - (k + 1) + 1 := by omega
    rw [hleft, converseFrom]
    split <;> rfl
  · have hleft : p.maxRetries - k = 0 := by omega
    rw [hleft, converseFrom, RetryPolicy.asksAgain_of_le (Nat.le_of_not_lt hk)]
    rfl

end LabGrader
