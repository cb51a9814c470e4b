import LabGrader.Proofs.Response.Fields
import LabGrader.Proofs.Text.Places
import LabGrader.Response.Rule

/-!
# Rules and first marks

The rule of a field gives what the search for its marks finds: what stands between the first mark of
the field and the first mark behind it that ends the field. Passing over characters as long as no
mark stands there ends at the first mark, or at the end of the text if there is none, where the rule
then misses it. So a rule that does not fail leaves nothing of the text.
-/

namespace LabGrader.Response

open Grammar Expression
open Text (places)

variable {m t a b found : Text} {f : Field}

namespace Field

/-- The text between the first mark of the field and the first one behind it that ends the field. -/
def IsBetween (f : Field) (t found : Text) : Prop :=
  ∃ i, IsLeast (places f.opening t) i ∧
    match f.closing? with
    | none => found = t.drop (i + f.opening.length)
    | some closing => ∃ j, IsLeast (places closing t ∩ Set.Ici (i + f.opening.length)) j ∧
        found = (t.take j).drop (i + f.opening.length)

section Rules

theorem rest?_upTo_of_cutFrom {seen : Text} (h : Text.cutFrom m seen t = some (a, b)) :
    (upTo m).rest? t = some (m ++ b) := by
  -- the search and the rule walk along the text together; what the search has seen does not matter
  induction t generalizing seen with
  | nil =>
    unfold Text.cutFrom at h
    split at h
    · rename_i hempty
      obtain ⟨-, rfl⟩ := Prod.mk.inj (Option.some.inj h)
      rw [List.isEmpty_iff.mp hempty, rest?_upTo_nil]
      rfl
    · cases h
  | cons c t ih =>
    unfold Text.cutFrom at h
    split at h
    · rename_i hhead
      have hprefix := List.isPrefixOf_iff_prefix.mp hhead
      obtain ⟨-, rfl⟩ := Prod.mk.inj (Option.some.inj h)
      rw [rest?_upTo_at hprefix, List.prefix_iff_eq_append.mp hprefix]
    · rename_i hhead
      rw [rest?_upTo_cons (fun hprefix => hhead (List.isPrefixOf_iff_prefix.mpr hprefix)), ih h]

theorem rest?_upTo_of_absent (h : ¬ m <:+: t) : (upTo m).rest? t = some [] := by
  induction t with
  | nil => exact rest?_upTo_nil m
  | cons c t ih =>
    rw [List.infix_cons_iff, not_or] at h
    rw [rest?_upTo_cons h.1, ih h.2]

theorem rest?_upTo_mark (hm : m ≠ []) (t : Text) :
    ((upTo m).rest? t).bind (mark m).rest? = (Text.cut m t).map Prod.snd := by
  cases hcut : Text.cut m t with
  | none =>
    rw [rest?_upTo_of_absent (Text.cut_eq_none_iff.mp hcut)]
    exact rest?_mark_nil hm
  | some sides =>
    rw [rest?_upTo_of_cutFrom hcut]
    exact rest?_mark_append m sides.2

theorem opening_ne_nil (f : Field) : f.opening ≠ [] := by
  rw [opening_eq]
  exact List.concat_ne_nil _ _

theorem closing_ne_nil {mark : Text} (h : f.closing? = some mark) : mark ≠ [] := by
  cases f with
  | score => exact Option.some.inj h ▸ opening_ne_nil .comments
  | comments => exact Option.some.inj h ▸ opening_ne_nil .confidence
  | confidence => cases h

theorem take?_rule_last (h : f.closing? = none) (t : Text) :
    f.rule.take? t = (Text.cut f.opening t).map fun sides => (sides.2, []) := by
  rw [rule, h]
  simp only [Rule.take?, rest?_andThen, rest?_upTo_mark (opening_ne_nil f),
    rest?_repeated_character, rest?_nothing, Option.bind_eq_bind, Option.bind_some,
    List.length_nil, Nat.sub_zero, List.take_length]
  cases Text.cut f.opening t <;> rfl

theorem take?_rule_closed {closing : Text} (h : f.closing? = some closing) (t : Text) :
    f.rule.take? t = (Text.cut f.opening t).bind fun sides =>
      (Text.cut closing sides.2).map fun sides => (sides.1, []) := by
  rw [rule, h]
  simp only [Rule.take?, rest?_andThen, rest?_upTo_mark (opening_ne_nil f), Option.bind_eq_bind]
  cases Text.cut f.opening t with
  | none => rfl
  | some sides =>
    obtain ⟨before, behind⟩ := sides
    simp only [Option.map_some, Option.bind_some]
    cases hclosing : Text.cut closing behind with
    | none =>
      rw [rest?_upTo_of_absent (Text.cut_eq_none_iff.mp hclosing), Option.bind_some,
        rest?_mark_nil (closing_ne_nil h)]
      rfl
    | some sides =>
      obtain ⟨inside, after⟩ := sides
      have hbehind : behind.take (behind.length - (closing ++ after).length) = inside := by
        rw [Text.eq_append_of_cut hclosing, List.append_assoc, List.length_append,
          Nat.add_sub_cancel, List.take_left]
      rw [rest?_upTo_of_cutFrom hclosing, Option.bind_some, rest?_mark_append, Option.bind_some,
        rest?_repeated_character, Option.bind_some, hbehind]
      rfl

theorem toOption_find_last (h : f.closing? = none) (t : Text) :
    (f.find t).toOption = (Text.cut f.opening t).map Prod.snd := by
  unfold find
  rw [h]
  cases Text.cut f.opening t <;> rfl

theorem toOption_find_closed {closing : Text} (h : f.closing? = some closing) (t : Text) :
    (f.find t).toOption = (Text.cut f.opening t).bind fun sides =>
      (Text.cut closing sides.2).map Prod.fst := by
  unfold find
  rw [h]
  cases Text.cut f.opening t with
  | none => rfl
  | some sides =>
    obtain ⟨before, behind⟩ := sides
    rw [Option.bind_some]
    cases hcut : Text.cut closing behind <;> simp only [hcut] <;> rfl

/-- A rule finds what is searched for, and leaves nothing of the text. -/
theorem take?_rule (f : Field) (t : Text) :
    f.rule.take? t = (f.find t).toOption.map fun found => (found, []) := by
  cases h : f.closing? with
  | none =>
    rw [take?_rule_last h, toOption_find_last h, Option.map_map]
    rfl
  | some closing =>
    rw [take?_rule_closed h, toOption_find_closed h, Option.map_bind]
    simp only [Function.comp_def, Option.map_map]

theorem read?_rule (f : Field) (t : Text) : f.rule.read? t = (f.find t).toOption := by
  rw [Rule.read?, take?_rule]
  cases f.find t <;> rfl

end Rules

section FirstMarks

theorem read?_rule_eq_some_iff : f.rule.read? t = some found ↔ f.IsBetween t found := by
  unfold IsBetween
  rw [read?_rule]
  cases hclosing : f.closing? with
  | none =>
    rw [toOption_find_last hclosing, Option.map_eq_some_iff]
    constructor
    · rintro ⟨⟨before, behind⟩, hcut, rfl⟩
      obtain ⟨i, hi, -, hfound⟩ := Text.cut_eq_some_iff.mp hcut
      exact ⟨i, hi, hfound⟩
    · rintro ⟨i, hi, hfound⟩
      exact ⟨(t.take i, found), Text.cut_eq_some_iff.mpr ⟨i, hi, rfl, hfound⟩, rfl⟩
  | some closing =>
    rw [toOption_find_closed hclosing, Option.bind_eq_some_iff]
    simp only [Option.map_eq_some_iff]
    constructor
    · rintro ⟨⟨before, behind⟩, hopening, ⟨inside, after⟩, hcut, rfl⟩
      obtain ⟨i, hi, -, rfl⟩ := Text.cut_eq_some_iff.mp hopening
      obtain ⟨k, hk, hfound, -⟩ := Text.cut_eq_some_iff.mp hcut
      refine ⟨i, hi, _, Text.isLeast_places_drop.mp hk, ?_⟩
      rw [hfound, List.drop_take, Nat.add_sub_cancel_left]
    · rintro ⟨i, hi, j, hj, hfound⟩
      obtain ⟨k, rfl⟩ := Nat.exists_eq_add_of_le hj.1.2
      rw [List.drop_take, Nat.add_sub_cancel_left] at hfound
      exact ⟨_, Text.cut_eq_some_iff.mpr ⟨i, hi, rfl, rfl⟩, (found, _),
        Text.cut_eq_some_iff.mpr ⟨k, Text.isLeast_places_drop.mpr hj, hfound, rfl⟩, rfl⟩

/-- A field is there if its mark is, and behind the first one somewhere the mark that ends it. -/
theorem exists_isBetween_iff :
    (∃ found, f.IsBetween t found) ↔
      ∃ i, IsLeast (places f.opening t) i ∧
        ∀ closing ∈ f.closing?, ∃ j ∈ places closing t, i + f.opening.length ≤ j := by
  unfold IsBetween
  cases f.closing? with
  | none => simp
  | some closing =>
    constructor
    · rintro ⟨_, i, hi, j, hj, -⟩
      refine ⟨i, hi, ?_⟩
      rintro _ ⟨⟩
      exact ⟨j, hj.1.1, hj.1.2⟩
    · rintro ⟨i, hi, hclosing⟩
      obtain ⟨j, hj, hle⟩ := hclosing closing rfl
      obtain ⟨k, rfl⟩ := Nat.exists_eq_add_of_le hle
      obtain ⟨first, hfirst⟩ := Text.exists_isLeast_places
        (Text.infix_iff_exists_place.mpr ⟨k, Text.mem_places_drop.mpr hj⟩)
      exact ⟨_, i, hi, _, Text.isLeast_places_drop.mp hfirst, rfl⟩

end FirstMarks

end Field

/-- The rule of a field gives back what stands between the first mark of the field and the first one
behind it that ends the field, up to the end for the last field, and fails exactly if one of the two
is not there. It leaves nothing of a text that it does not fail on. Each field of an answer is what
its own rule takes out of the cleaned answer, whatever the other rules do there. -/
theorem rules_take_between_first_marks (t : Text) :
    (∀ f : Field,
      ((f.rule.read? t).isSome = true ↔
        ∃ i, IsLeast (places f.opening t) i ∧
          ∀ closing ∈ f.closing?, ∃ j ∈ places closing t, i + f.opening.length ≤ j) ∧
      (∀ found, f.rule.read? t = some found ↔ f.IsBetween t found) ∧
      (∀ found rest, f.rule.take? t = some (found, rest) → rest = [])) ∧
    parse t = ⟨Field.score.rule.read? (clean t), Field.comments.rule.read? (clean t),
      Field.confidence.rule.read? (clean t)⟩ ∧
    ∀ (f : Field) (found : Text), f.rule.read? (clean t) = some found → found <:+: clean t := by
  refine ⟨?rules, ?answer, ?parts⟩
  case rules =>
    intro f
    refine ⟨?_, fun found => Field.read?_rule_eq_some_iff, ?_⟩
    · simp only [Option.isSome_iff_exists, Field.read?_rule_eq_some_iff]
      exact Field.exists_isBetween_iff
    · intro found rest h
      rw [Field.take?_rule] at h
      obtain ⟨_, -, heq⟩ := Option.map_eq_some_iff.mp h
      exact (Prod.mk.inj heq).2.symm
  case answer =>
    simp only [Field.read?_rule]
    rfl
  case parts =>
    intro f found h
    rw [Field.read?_rule] at h
    cases hfind : f.find (clean t) with
    | error mark =>
      rw [hfind] at h
      cases h
    | ok inside =>
      rw [hfind] at h
      cases h
      exact infix_of_find hfind

end LabGrader.Response
