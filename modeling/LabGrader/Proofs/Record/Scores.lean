import LabGrader.Proofs.Number.Exact
import LabGrader.Record
import Mathlib.Order.Monotone.Defs

/-!
# Scores stay near the judge's

In exact arithmetic each rule takes off more with every violation, up to its limit, so a final score
lies at most the sum of the limits below the judge's score. The score of an answer without a number
is far enough away to tell it from every score that is not negative.
-/

namespace LabGrader

open Number (exactly)

namespace Style

/-- The price and the limit of a rule as fractions; neither is negative. -/
structure Cost.Fractions (c : Cost) (per most : Rat) : Prop where
  per_eq : c.per.value? = some per
  most_eq : c.most.value? = some most
  per_nonneg : 0 ≤ per
  most_nonneg : 0 ≤ most

/-- What a rule takes off grows with the number of violations, from nothing to the limit. -/
def Cost.RisesTo (c : Cost) (most : Rat) : Prop :=
  ∃ off : Nat → Rat, Monotone off ∧
    ∀ n, (c.deduct exactly n).value? = some (off n) ∧ 0 ≤ off n ∧ off n ≤ most

namespace Cost

variable {c : Cost} {per most : Rat}

theorem Fractions.value?_deduct (h : c.Fractions per most) (n : Nat) :
    (c.deduct exactly n).value? = some (min (n * per) most) :=
  Number.value?_least (Number.value?_mul (Number.value?_ofNat n) h.per_eq) h.most_eq

theorem Fractions.risesTo (h : c.Fractions per most) : c.RisesTo most := by
  refine ⟨fun n => min (n * per) most, ?_, ?_⟩
  · intro m n hmn
    have hcount : (m : Rat) ≤ n := by exact_mod_cast hmn
    exact min_le_min_right most (mul_le_mul_of_nonneg_right hcount h.per_nonneg)
  · intro n
    have hprice : 0 ≤ n * per := mul_nonneg n.cast_nonneg h.per_nonneg
    exact ⟨h.value?_deduct n, le_min hprice h.most_nonneg, min_le_right _ _⟩

end Cost

theorem exists_total {costs : Costs} {A B : Rat} (hbraces : costs.braces.RisesTo A)
    (hboundary : costs.boundary.RisesTo B) (text required : Text) :
    ∃ t, ((analyze exactly text costs required).total exactly).value? = some t ∧
      0 ≤ t ∧ t ≤ A + B := by
  obtain ⟨off, _, hoff⟩ := hbraces
  obtain ⟨off', _, hoff'⟩ := hboundary
  obtain ⟨hvalue, hlow, hhigh⟩ := hoff (braceViolations (Source.strip text))
  obtain ⟨hvalue', hlow', hhigh'⟩ := hoff' (boundaryViolation (Text.rows text) required).toNat
  exact ⟨_, Number.value?_add hvalue hvalue', add_nonneg hlow hlow', add_le_add hhigh hhigh'⟩

end Style

namespace Response

theorem scoreNumber_of_not_gradable {r : Response} (h : r.isGradable = false) :
    r.scoreNumber = .finite (-100) := by
  have hnone : r.scoreNumber? = none :=
    Option.isNone_iff_eq_none.mp (Option.isSome_eq_false_iff.mp h)
  rw [scoreNumber, hnone]
  rfl

end Response

namespace Record

/-- What a record is made of: a text, the print that is required of it, and an answer about it. -/
structure Basis where
  identity : Text
  path : Option Path
  text : Text
  required : Text
  answer : Text

namespace Basis

def response (x : Basis) : Response := .parse x.answer

def style (x : Basis) (costs : Style.Costs) : Style.Report :=
  Style.analyze exactly x.text costs x.required

def record (x : Basis) (costs : Style.Costs) : Record :=
  .ofParts exactly x.identity x.response (x.style costs) x.path

/-- The rules take at most `limit` off the judge's score. -/
structure Bounded (x : Basis) (costs : Style.Costs) (limit : Rat) : Prop where
  total : ∃ t, ((x.style costs).total exactly).value? = some t ∧ 0 ≤ t ∧ t ≤ limit
  modelScore : (x.record costs).modelScore = some x.response.scoreNumber
  difference : (x.record costs).score =
    Number.sub exactly x.response.scoreNumber ((x.style costs).total exactly)
  between : ∀ q, x.response.scoreNumber.value? = some q →
    ∃ s, (x.record costs).score.value? = some s ∧ q - limit ≤ s ∧ s ≤ q
  /-- an infinite score stays infinite, and what is no number stays so -/
  noFraction : x.response.scoreNumber.value? = none →
    (x.record costs).score = x.response.scoreNumber
  notGradable : x.response.isGradable = false →
    x.response.scoreNumber = .finite (-100) ∧
      ∃ s, (x.record costs).score.value? = some s ∧ s ≤ -100

variable {x y : Basis} {costs : Style.Costs} {limit : Rat}

theorem bounded_of_total
    (h : ∃ t, ((x.style costs).total exactly).value? = some t ∧ 0 ≤ t ∧ t ≤ limit) :
    x.Bounded costs limit := by
  obtain ⟨t, ht, hlow, hhigh⟩ := h
  have hbetween : ∀ q, x.response.scoreNumber.value? = some q →
      ∃ s, (x.record costs).score.value? = some s ∧ q - limit ≤ s ∧ s ≤ q := by
    intro q hq
    exact ⟨q - t, Number.value?_sub hq ht, by linarith, by linarith⟩
  constructor
  case total => exact ⟨t, ht, hlow, hhigh⟩
  case modelScore => rfl
  case difference => rfl
  case between => exact hbetween
  case noFraction => exact fun hnone => Number.sub_eq_self _ hnone ht
  case notGradable =>
    intro hgradable
    have hsentinel := Response.scoreNumber_of_not_gradable hgradable
    obtain ⟨s, hs, _, hle⟩ := hbetween (-100) (by rw [hsentinel]; rfl)
    exact ⟨hsentinel, s, hs, hle⟩

theorem Bounded.less_of_not_gradable (hx : x.Bounded costs limit) (hy : y.Bounded costs limit)
    (hlimit : limit < 100) (hnumber : x.response.scoreNumber ≠ .nan)
    (hnonneg : Number.less x.response.scoreNumber (.finite 0) = false)
    (hgradable : y.response.isGradable = false) :
    Number.less (y.record costs).score (x.record costs).score = true := by
  obtain ⟨_, s, hs, hle⟩ := hy.notGradable hgradable
  cases hq : x.response.scoreNumber.value? with
  | some q =>
    have hzero : (Number.finite 0).value? = some 0 := rfl
    have hnotless : ¬ q < 0 := by
      rw [← Number.less_iff hq hzero, hnonneg]
      decide
    obtain ⟨s', hs', hge, _⟩ := hx.between q hq
    exact (Number.less_iff hs hs').mpr (by linarith)
  | none =>
    -- only the positive infinity is left
    rcases Number.value?_eq_none_iff.mp hq with hnan | ⟨negative, hinfinite⟩
    · exact absurd hnan hnumber
    · rw [hx.noFraction hq, hinfinite]
      rw [hinfinite] at hnonneg
      have hpositive : negative = false := hnonneg
      rw [hpositive]
      rcases Number.value?_eq_some_iff.mp hs with hscore | ⟨hscore, _⟩
      · rw [hscore]
        rfl
      · rw [hscore]
        rfl

/-- Under rules whose prices and limits are fractions that are not negative, all that is taken off
lies between nothing and the sum of the limits, and so does the distance of a final score from the
judge's. If the limits make up less than 100 points, every answer with a score that is not negative
ends above all those without a score. -/
theorem scores_bounded_and_apart {a A b B : Rat} (hbraces : costs.braces.Fractions a A)
    (hboundary : costs.boundary.Fractions b B) :
    (costs.braces.RisesTo A ∧ costs.boundary.RisesTo B) ∧
    (∀ x : Basis, x.Bounded costs (A + B)) ∧
    (A + B < 100 → ∀ x y : Basis, x.response.scoreNumber ≠ .nan →
      Number.less x.response.scoreNumber (.finite 0) = false → y.response.isGradable = false →
      Number.less (y.record costs).score (x.record costs).score = true) := by
  have hbounded : ∀ x : Basis, x.Bounded costs (A + B) := fun x =>
    bounded_of_total (Style.exists_total hbraces.risesTo hboundary.risesTo x.text x.required)
  refine ⟨⟨hbraces.risesTo, hboundary.risesTo⟩, hbounded, ?_⟩
  intro hlimit x y hnumber hnonneg hgradable
  exact (hbounded x).less_of_not_gradable (hbounded y) hlimit hnumber hnonneg hgradable

namespace Sample

/-- Limits that almost reach the sentinel, and a price that is the other zero. -/
def harsh : Style.Costs := ⟨⟨.negativeZero, .finite 40⟩, ⟨.finite 60, .finite (119 / 2)⟩⟩

/-- A print that is not the required one, with the lowest score that is not negative. -/
def lowest : Basis :=
  ⟨[], none, "System.out.println(1);".toList, [], "SCORE: -0 COMMENTS: none".toList⟩

/-- Nothing is taken off, but the answer has no score. -/
def unread : Basis := ⟨[], none, [], [], "SCORE: 85/100 COMMENTS: good".toList⟩

end Sample

theorem scores_apart_at_limits :
    Sample.harsh.braces.Fractions 0 40 ∧ Sample.harsh.boundary.Fractions 60 (119 / 2) ∧
    Sample.lowest.response.scoreNumber = .negativeZero ∧
    (Sample.lowest.record Sample.harsh).score = .finite (-119 / 2) ∧
    (Sample.unread.record Sample.harsh).score = .finite (-100) ∧
    Number.less (Sample.unread.record Sample.harsh).score
      (Sample.lowest.record Sample.harsh).score = true := by
  have hbraces : Sample.harsh.braces.Fractions 0 40 := ⟨rfl, rfl, le_rfl, by norm_num⟩
  have hboundary : Sample.harsh.boundary.Fractions 60 (119 / 2) :=
    ⟨rfl, rfl, by norm_num, by norm_num⟩
  have hscore : Sample.lowest.response.scoreNumber = .negativeZero := by decide +kernel
  have hgradable : Sample.unread.response.isGradable = false := by decide +kernel
  obtain ⟨_, _, hapart⟩ := scores_bounded_and_apart hbraces hboundary
  refine ⟨hbraces, hboundary, hscore, by decide +kernel, by decide +kernel, ?_⟩
  apply hapart (by norm_num) Sample.lowest Sample.unread
  · rw [hscore]
    decide
  · rw [hscore]
    rfl
  · exact hgradable

end Basis

end Record

end LabGrader
