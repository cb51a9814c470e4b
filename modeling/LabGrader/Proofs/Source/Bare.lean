import LabGrader.Proofs.Source.Lexing
import Mathlib.Data.List.Infix

/-!
# Stripped text is bare

A text without quotes, `//` and `/*` is bare: no comment and no literal opens in it, so the scan
leaves it as it is. What the scan puts out is always bare. A slash that it keeps is not followed by
what would make it an opening mark, since the next character is kept as well or becomes a space.
-/

namespace LabGrader.Source

structure Bare (t : Text) : Prop where
  noDoubleQuote : '"' ∉ t
  noSingleQuote : '\'' ∉ t
  noLineComment : ¬ ['/', '/'] <:+: t
  noBlockComment : ¬ ['/', '*'] <:+: t

section Bare
variable {k : Kind} {t back out : Text} {segments : List Segment}

theorem bare_iff : Bare t ↔ ∀ k : Kind, ¬ k.opening <:+: t := by
  constructor
  · intro h k
    cases k with
    | line => exact h.noLineComment
    | block => exact h.noBlockComment
    | string => exact fun hinside => h.noDoubleQuote ((List.singleton_infix_iff _ t).mp hinside)
    | character => exact fun hinside => h.noSingleQuote ((List.singleton_infix_iff _ t).mp hinside)
  · intro h
    constructor
    · exact fun hmem => h .string ((List.singleton_infix_iff _ t).mpr hmem)
    · exact fun hmem => h .character ((List.singleton_infix_iff _ t).mpr hmem)
    · exact h .line
    · exact h .block

theorem strip_eq_self (h : Bare t) : strip t = t := by
  rw [bare_iff] at h
  induction t with
  | nil => rfl
  | cons c t ih =>
    have hplain : scan .code (c :: t) = c :: scan .code t :=
      scan_plain fun k hfront => h k hfront.isInfix
    have hrest : scan .code t = t := ih fun k hinside => h k (List.infix_cons hinside)
    rw [strip, hplain, hrest]

theorem Kind.blanked_notMem_opening (k : Kind) (c : Char) : blanked c ∉ k.opening := by
  unfold blanked
  split
  · rename_i hend
    rcases hend with rfl | rfl <;> cases k <;> decide
  · cases k <;> decide

theorem Kind.opening_ne_nil (k : Kind) : k.opening ≠ [] := by
  cases k <;> exact List.cons_ne_nil _ _

theorem opening_infix_of_blanked (h : k.opening <:+: back.map blanked ++ out) :
    k.opening <:+: out := by
  induction back with
  | nil => exact h
  | cons c back ih =>
    rcases List.infix_cons_iff.mp h with hfront | hinside
    · -- the mark would begin with a blanked character
      refine absurd ?_ (k.blanked_notMem_opening c)
      obtain ⟨d, mark, hmark⟩ := List.exists_cons_of_ne_nil k.opening_ne_nil
      rw [hmark] at hfront ⊢
      exact (List.cons_prefix_cons.mp hfront).1 ▸ List.mem_cons_self
    · exact ih hinside

/-- What is put out without spaces stands in the text. -/
theorem prefix_of_covers {mark : Text} (hmark : ' ' ∉ mark) (hcovers : List.Forall₂ Covers t out)
    (h : mark <+: out) : mark <+: t := by
  induction hcovers generalizing mark with
  | nil => exact h
  | @cons c c' t out hc _ ih =>
    cases mark with
    | nil => exact List.nil_prefix
    | cons d mark =>
      obtain ⟨rfl, hrest⟩ := List.cons_prefix_cons.mp h
      rw [List.mem_cons, not_or] at hmark
      rcases hc.2.2 with rfl | rfl
      · exact List.cons_prefix_cons.mpr ⟨rfl, ih hmark.2 hrest⟩
      · exact absurd rfl hmark.1

theorem Kind.space_notMem_opening (k : Kind) : ' ' ∉ k.opening := by
  cases k <;> decide

theorem opening_not_infix_of_lexes (k : Kind) (h : Lexes t segments) :
    ¬ k.opening <:+: segments.flatMap Segment.blanked := by
  induction h with
  | nil => exact fun hinside => k.opening_ne_nil (List.infix_nil.mp hinside)
  | @cons segment rest segments hfits hrest ih =>
    rw [List.flatMap_cons]
    cases segment with
    | plain c =>
      -- a mark at this character would stand in the text as well, where none opens
      intro hinside
      rcases List.infix_cons_iff.mp hinside with hfront | hlater
      · have hcovers := List.Forall₂.cons (covers_refl c) (covers_of_lexes hrest)
        exact hfits k (prefix_of_covers k.space_notMem_opening hcovers hfront)
      · exact ih hlater
    | closed kind body => exact fun hinside => ih (opening_infix_of_blanked hinside)
    | unclosed kind body => exact fun hinside => ih (opening_infix_of_blanked hinside)

theorem bare_strip (t : Text) : Bare (strip t) := by
  obtain ⟨segments, hlexes⟩ := exists_lexes t
  rw [bare_iff, strip_of_lexes hlexes]
  exact fun k => opening_not_infix_of_lexes k hlexes

end Bare

/-- Stripping makes every text bare and changes no text that is bare, so it does nothing when it is
done again. -/
theorem strip_bare_and_idempotent (t : Text) :
    Bare (strip t) ∧ (strip t = t ↔ Bare t) ∧ strip (strip t) = strip t := by
  have hbare := bare_strip t
  refine ⟨hbare, ?_, strip_eq_self hbare⟩
  constructor
  · intro h
    exact h ▸ hbare
  · exact strip_eq_self

/-- Where a comment stood between two slashes, spaces keep them apart. -/
example : strip "a //*\nb / /* */ / '/'".toList = "a    \nb /       /    ".toList := by decide

end LabGrader.Source
