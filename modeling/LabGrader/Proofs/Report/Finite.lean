import LabGrader.Proofs.Number.Overflow
import LabGrader.Proofs.Record.Scores
import LabGrader.Proofs.Report.Json

/-!
# Scores that are no finite numbers

A judge may write a score that is read as an infinity or as no number. Nothing that is taken off
makes it finite again, and a report in JSON that has it is not read back. All other scores are finite
as long as their difference from what is taken off is below the largest numbers.
-/

namespace LabGrader

open BinaryFormat (binary64)

namespace Response

theorem not_isFinite_scoreNumber_iff (r : Response) :
    r.scoreNumber.isFinite = false ↔ ∃ t, r.score = some t ∧ Number.Boundless binary64 t := by
  cases hscore : r.score with
  | none =>
    have hnumber : r.scoreNumber = sentinel := by
      rw [scoreNumber, scoreNumber?, hscore]
      rfl
    rw [hnumber]
    refine iff_of_false (by decide) ?_
    rintro ⟨t, ht, -⟩
    cases ht
  | some t =>
    have hnumber : r.scoreNumber = (Number.read? binary64 t).getD sentinel := by
      rw [scoreNumber, scoreNumber?, hscore]
      rfl
    have hiff := Number.boundless_iff BinaryFormat.wide_binary64 t
    rw [hnumber]
    constructor
    · intro hfinite
      cases hread : Number.read? binary64 t with
      | none =>
        rw [hread] at hfinite
        cases hfinite
      | some x =>
        rw [hread] at hfinite
        exact ⟨t, rfl, hiff.mpr ⟨x, hread, hfinite⟩⟩
    · rintro ⟨u, hu, hboundless⟩
      obtain rfl : t = u := Option.some.inj hu
      obtain ⟨x, hread, hfinite⟩ := hiff.mp hboundless
      rw [hread]
      exact hfinite

end Response

namespace Report

/-- What a report in JSON has of a record's score, and whether the report is read back. -/
structure Carries (r : Record) : Prop where
  number : r.score.isFinite = true →
    ("Score".toList, .numeral (r.score.write .json binary64)) ∈ r.members
  null : r.score.isFinite = false → ("Score".toList, .null) ∈ r.members
  readable : ∀ records, r ∈ records → (∀ other ∈ records, other.Faithful) →
    (∀ other ∈ records, other.score.isFinite = true) →
      Json.parse Record.listReader (render .json records) = .ok (records.map Record.asRead)
  unreadable : ∀ records, r ∈ records → (∀ other ∈ records, other.Faithful) →
    r.score.isFinite = false →
      ∃ e, Json.parse Record.listReader (render .json records) = .error e

theorem carries (r : Record) : Carries r := by
  have hmember : ("Score".toList, Json.Value.ofNumber binary64 r.score) ∈ r.members := by
    simp [Record.members]
  constructor
  case number =>
    intro hfinite
    rwa [Json.Value.ofNumber, if_pos hfinite] at hmember
  case null =>
    intro hfinite
    rwa [Json.ofNumber_of_not_finite hfinite] at hmember
  case readable => exact fun _ _ => parse_asRead
  case unreadable =>
    intro records hr hfaithful hfinite
    exact parse_fails hfaithful ⟨r, hr, hfinite⟩

/-- The score of an answer without a number is the sentinel. A score that is read is finite, unless
the answer has a word for an infinity or for no number there, or a decimal above the largest numbers;
then it stays what it is whatever is taken off, the report has no number in its place and is not read
back. A finite score less a finite total is finite if the difference is below the largest numbers, and
a report of finite scores is read back. -/
theorem finite_unless_boundless (answer identity : Text) (style : Style.Report)
    (path : Option Path) {t : Rat} (htotal : (style.total binary64.round).value? = some t) :
    let response := Response.parse answer
    let record := Record.ofParts binary64.round identity response style path
    (response.isGradable = false → response.scoreNumber = .finite (-100)) ∧
    (response.scoreNumber.isFinite = false ↔
      ∃ text, response.score = some text ∧ Number.Boundless binary64 text) ∧
    record.modelScore = some response.scoreNumber ∧
    (∀ q, response.scoreNumber.value? = some q → |q - t| < binary64.overflow →
      record.score.isFinite = true) ∧
    (response.scoreNumber.isFinite = false → record.score = response.scoreNumber) ∧
    Carries record := by
  refine ⟨Response.scoreNumber_of_not_gradable, Response.not_isFinite_scoreNumber_iff _, rfl, ?_, ?_,
    carries _⟩
  · intro q hq hdifference
    exact Number.isFinite_sub BinaryFormat.wide_binary64 hq htotal hdifference
  · intro hinfinite
    exact Number.sub_eq_self _ (Number.value?_of_not_finite hinfinite) htotal

namespace Sample

def style : Style.Report := { braceViolations := 2, braceDeduction := .finite 2 }

def answer (score : Text) : Text :=
  "SCORE: ".toList ++ score ++ "\nCOMMENTS: none\nCONFIDENCE: 1".toList

def record (score : Text) : Record :=
  .ofParts binary64.round "Ada".toList (.parse (answer score)) style none

end Sample

theorem finite_unless_boundless_scientific :
    (Sample.style.total binary64.round).value? = some 2 ∧
    (Sample.record "+9.55e1".toList).score.isFinite = true ∧
    Json.parse Record.listReader (render .json [Sample.record "+9.55e1".toList]) =
      .ok [(Sample.record "+9.55e1".toList).asRead] := by
  have htotal : (Sample.style.total binary64.round).value? = some 2 := by decide +kernel
  have hscore : (Response.parse (Sample.answer "+9.55e1".toList)).scoreNumber.value? =
      some (191 / 2) := by decide +kernel
  have hdifference : |(191 / 2 : Rat) - 2| < binary64.overflow := by decide +kernel
  have hfaithful : ∀ other ∈ [Sample.record "+9.55e1".toList], other.Faithful := by
    unfold Record.Faithful
    decide +kernel
  obtain ⟨-, -, -, hfinite, -, hcarries⟩ := finite_unless_boundless
    (Sample.answer "+9.55e1".toList) "Ada".toList Sample.style none htotal
  have hrecord : (Sample.record "+9.55e1".toList).score.isFinite = true :=
    hfinite _ hscore hdifference
  exact ⟨htotal, hrecord, hcarries.readable _ List.mem_cons_self hfaithful
    (List.forall_mem_singleton.mpr hrecord)⟩

/-- What is no number is gradable, and makes the report unreadable. -/
theorem nan_gradable :
    (Response.parse (Sample.answer "NaN".toList)).isGradable = true ∧
    (Response.parse (Sample.answer "NaN".toList)).scoreNumber = .nan ∧
    ("Score".toList, .null) ∈ (Sample.record "NaN".toList).members ∧
    ∃ e, Json.parse Record.listReader (render .json [Sample.record "NaN".toList]) = .error e := by
  have hscore : (Sample.record "NaN".toList).score.isFinite = false := by decide +kernel
  have hfaithful : ∀ other ∈ [Sample.record "NaN".toList], other.Faithful := by
    unfold Record.Faithful
    decide +kernel
  have hcarries := carries (Sample.record "NaN".toList)
  refine ⟨by decide +kernel, by decide +kernel, hcarries.null hscore, ?_⟩
  exact hcarries.unreadable _ List.mem_cons_self hfaithful hscore

end Report

end LabGrader
