import LabGrader.Proofs.Judge.Inquiry
import LabGrader.Proofs.Text.Cut

/-!
# Errors that asking again does not mend

A service may say that the key was wrong, or the question. An inquiry ends with such an error, except
if the message speaks of a rate limit: it is searched for these words whatever the error is called,
so one that has them is met with the same question again as long as there are retries.
-/

namespace LabGrader

theorem Text.contains_lowercase_iff {t m : Text} :
    contains (lowercase t) m = true ↔ ∃ words, words <:+: t ∧ lowercase words = m := by
  rw [contains_iff, lowercase, List.infix_map_iff]
  constructor
  · rintro ⟨words, hwords, rfl⟩
    exact ⟨words, hwords, rfl⟩
  · rintro ⟨words, hwords, rfl⟩
    exact ⟨words, hwords, rfl⟩

namespace ServiceReport

variable {r : ServiceReport}

/-- The service blames the key or the question. -/
def IsPermanent (r : ServiceReport) : Prop :=
  r.kind = some "authentication_error".toList ∨ r.kind = some "invalid_request_error".toList

/-- The message has the words in it, in letters of either case. -/
def SpeaksOfRateLimit (r : ServiceReport) : Prop :=
  ∃ words, words <:+: r.message ∧ Text.lowercase words = "rate limit".toList

/-- The kind of a permanent error is none of those that pass, so the message alone decides. -/
theorem isTransient_iff_of_isPermanent (h : r.IsPermanent) :
    r.isTransient = true ↔ r.SpeaksOfRateLimit := by
  have hkind : Text.contains (r.kind.getD []) "server_error".toList = false ∧
      Text.contains (r.kind.getD []) "rate_limit".toList = false := by
    rcases h with hkey | hquestion
    · rw [hkey]
      decide
    · rw [hquestion]
      decide
  rw [isTransient, hkind.1, hkind.2, Bool.false_or, Bool.false_or, Text.contains_lowercase_iff]
  rfl

end ServiceReport

namespace Inquiry

variable {i : Inquiry} {n k : Nat} {p : Progress} {r : ServiceReport}

/-- While an inquiry goes on, no attempt before has settled it. -/
theorem eq_after_of_going (hk : IsLeast {n | i.Settles n} k) (h : i.standing n = .going p) :
    n ≤ k ∧ p = i.after n := by
  have hn : n ≤ k := by
    by_contra hlt
    rw [standing_of_lt hk (Nat.lt_of_not_le hlt)] at h
    cases h
  rw [standing_of_le hk hn] at h
  cases h
  exact ⟨hn, rfl⟩

theorem settles_iff_of_isPermanent (hpermanent : r.IsPermanent)
    (hreported : i.attempt n = .failed (.request (.reported r))) :
    i.Settles n ↔ ¬ r.SpeaksOfRateLimit ∨ n = i.policy.maxRetries := by
  have hpasses : (JudgeError.request (.reported r)).isRetryable = false ↔
      ¬ r.SpeaksOfRateLimit := by
    rw [← r.isTransient_iff_of_isPermanent hpermanent, Bool.not_eq_true]
    rfl
  rw [← hpasses]
  simp [Settles, hreported]

end Inquiry

/-- An inquiry that comes to an error of the key or of the question ends with it, after the attempt
that brought it and whatever the judge would do later, unless the message speaks of a rate limit. In
that case it goes on with a pause and the same question if it may. -/
theorem Inquiry.permanent_error_ends_unless_rate_limit (i : Inquiry) {n : Nat} {p : Progress}
    {r : ServiceReport} (hgoing : i.standing n = .going p)
    (hreported : i.attempt n = .failed (.request (.reported r))) (hpermanent : r.IsPermanent) :
    (¬ r.SpeaksOfRateLimit ∨ n = i.policy.maxRetries →
      (∀ m, n < m → i.standing m =
        .ended (p.log ++ [.asked i.question]) (.failed (.request (.reported r)))) ∧
      (p.log ++ [Deed.asked i.question]).countP Deed.isAsked = n + 1 ∧
      converse i.policy i.attempt =
        ⟨.failed (.request (.reported r)), n + 1, List.range' 1 n⟩) ∧
    (r.SpeaksOfRateLimit → n < i.policy.maxRetries →
      i.standing (n + 1) = .going ⟨p.retries + 1, p.log ++
        [.asked i.question, .paused (i.policy.pause (n + 1) (i.draw (n + 1)))]⟩) := by
  obtain ⟨k, hk⟩ := i.exists_first
  obtain ⟨hn, rfl⟩ := eq_after_of_going hk hgoing
  have hsettles := settles_iff_of_isPermanent hpermanent hreported
  constructor
  · intro hends
    obtain rfl : n = k := le_antisymm hn (hk.2 (hsettles.mpr hends))
    refine ⟨?ended, ?calls, ?converse⟩
    case ended =>
      intro m hm
      rw [standing_of_lt hk hm, hreported]
      rfl
    case calls =>
      have hcalls : (i.after n).log.countP Deed.isAsked = n := calls_after n
      rw [List.countP_append, hcalls]
      rfl
    case converse =>
      have hwhole := converseFrom_of_le hk (Nat.zero_le n) (Nat.zero_add i.policy.maxRetries)
      rw [hreported] at hwhole
      exact hwhole
  · intro hspeaks hleft
    have hagain : ¬ i.Settles n := by
      rw [hsettles, not_or, not_not]
      exact ⟨hspeaks, Nat.ne_of_lt hleft⟩
    have hlog : (i.after (n + 1)).log = (i.after n).log ++
        [.asked i.question, .paused (i.policy.pause (n + 1) (i.draw (n + 1)))] := logged_succ n
    calc i.standing (n + 1) = i.round (i.after n) := by rw [standing, hgoing]
      _ = .going (i.after (n + 1)) := round_after (Nat.le_of_lt hleft) hagain
      _ = _ := by rw [← hlog, retries_after_add_one]

namespace Sample

def wrongKey : ServiceReport :=
  { message := "Incorrect API key provided".toList, kind := some "authentication_error".toList }

def unverified : ServiceReport :=
  { message := "Rate limit tiers are for verified organizations".toList
    kind := some "invalid_request_error".toList }

/-- Asks with the default policy a judge that does one thing after another, and then answers. -/
def inquiry (script : List Attempt) : Inquiry where
  question := ⟨['G'], ['S']⟩
  policy := {}
  limit := .ofSeconds 5
  judge n _ := ⟨0, some (script.getD n (.answered ['A']))⟩
  draw _ := 700
  fits := by decide

end Sample

theorem Inquiry.permanent_error_ends_after_empty_answer :
    let i := Sample.inquiry [.failed .emptyResponse, .failed (.request (.reported Sample.wrongKey))]
    let p : Progress := ⟨1, [.asked i.question, .paused 700]⟩
    i.standing 1 = .going p ∧
    i.attempt 1 = .failed (.request (.reported Sample.wrongKey)) ∧
    Sample.wrongKey.IsPermanent ∧ ¬ Sample.wrongKey.SpeaksOfRateLimit ∧
    converse i.policy i.attempt = ⟨.failed (.request (.reported Sample.wrongKey)), 2, [1]⟩ := by
  intro i p
  have hgoing : i.standing 1 = .going p := by decide
  have hreported : i.attempt 1 = .failed (.request (.reported Sample.wrongKey)) := by decide
  have hpermanent : Sample.wrongKey.IsPermanent := Or.inl rfl
  have hsilent : ¬ Sample.wrongKey.SpeaksOfRateLimit := by
    rw [← ServiceReport.isTransient_iff_of_isPermanent hpermanent]
    decide
  have hends := permanent_error_ends_unless_rate_limit i hgoing hreported hpermanent
  exact ⟨hgoing, hreported, hpermanent, hsilent, (hends.1 (Or.inl hsilent)).2.2⟩

/-- The judge is asked a second time after an error of the question. -/
theorem Inquiry.invalid_request_asked_again :
    let i := Sample.inquiry [.failed (.request (.reported Sample.unverified))]
    i.attempt 0 = .failed (.request (.reported Sample.unverified)) ∧
    Sample.unverified.IsPermanent ∧
    i.standing 1 = .going ⟨1, [.asked i.question, .paused 700]⟩ ∧
    converse i.policy i.attempt = ⟨.answered ['A'], 2, [1]⟩ := by
  intro i
  exact ⟨by decide, Or.inr rfl, by decide, by decide⟩

end LabGrader
