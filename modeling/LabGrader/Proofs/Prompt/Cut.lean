import LabGrader.Prompt
import LabGrader.Proofs.Submission.Fences
import LabGrader.Proofs.Text.Offset

/-!
# Where a question is cut

The cut is made at a byte and noticed by the number of bytes, but the limit is one of characters.
Both come to the same, since no character is without bytes.
-/

namespace LabGrader.Prompt

open Submission (fence user_of_le user_of_lt)

variable {t t' : Text}

/-- What is put behind a text that has been cut. -/
def closing (kept : Text) : Text := (if kept.getLast? = some '\n' then [] else ['\n']) ++ fence

theorem length_closing_le (kept : Text) : (closing kept).length ≤ 4 := by
  have hfence : fence.length = 3 := rfl
  unfold closing
  split
  · rw [List.length_append, hfence, List.length_nil]
    omega
  · rw [List.length_append, hfence, List.length_singleton]

theorem user_eq_append (h : limit < t.length) :
    user t = t.take limit ++ closing (t.take limit) := by
  rw [user_of_lt h, List.append_assoc]
  rfl

theorem length_user_le (t : Text) : (user t).length ≤ limit + 4 := by
  rcases Nat.lt_or_ge limit t.length with hlong | hshort
  · have hclosing := length_closing_le (t.take limit)
    have hkept : (t.take limit).length ≤ limit := List.length_take_le limit t
    rw [user_eq_append hlong, List.length_append]
    omega
  · rw [user_of_le hshort]
    omega

theorem user_congr (h : limit < t.length) (h' : limit < t'.length)
    (hfront : t.take limit = t'.take limit) : user t = user t' := by
  rw [user_eq_append h, user_eq_append h', hfront]

theorem user_eq_self_iff_closing :
    user t = t ↔ t.length ≤ limit ∨ t.drop limit = closing (t.take limit) := by
  constructor
  · intro h
    rcases Nat.lt_or_ge limit t.length with hlong | hshort
    · right
      rw [user_eq_append hlong] at h
      have hsplit := h.trans (List.take_append_drop limit t).symm
      exact (List.append_cancel_left hsplit).symm
    · exact Or.inl hshort
  · intro h
    rcases Nat.lt_or_ge limit t.length with hlong | hshort
    · have hrest := h.resolve_left (Nat.not_le.mpr hlong)
      rw [user_eq_append hlong, ← hrest, List.take_append_drop]
    · exact user_of_le hshort

theorem ended_eq (kept : Text) :
    (if kept.getLast? = some '\n' then kept else kept ++ ['\n']) =
      kept ++ if kept.getLast? = some '\n' then [] else ['\n'] := by
  split
  · exact (List.append_nil kept).symm
  · rfl

theorem message?_eq (t : Text) : message? t = some ⟨user t, decide (limit < t.length)⟩ := by
  unfold message?
  rw [Text.truncate?_eq]
  change (if Text.byteCount (t.take limit) = Text.byteCount t then _ else _) = _
  -- characters are cut off exactly if bytes are
  rcases Nat.lt_or_ge limit t.length with hlong | hshort
  · have hbytes : Text.byteCount (t.take limit) ≠ Text.byteCount t := fun h =>
      Nat.not_le.mpr hlong ((Text.byteCount_take_eq_iff limit t).mp h)
    rw [if_neg hbytes, decide_eq_true hlong, user_of_lt hlong, ← ended_eq]
    rfl
  · have hbytes := (Text.byteCount_take_eq_iff limit t).mpr hshort
    rw [if_pos hbytes, List.take_of_length_le hshort, user_of_le hshort,
      decide_eq_false (Nat.not_lt.mpr hshort)]
    rfl

/-- Of the longer texts, two kinds are not changed: what is cut off them is put back. -/
theorem user_eq_self_iff :
    user t = t ↔ t.length ≤ limit ∨
      (t.length = limit + 3 ∧ (t.take limit).getLast? = some '\n' ∧ t.drop limit = fence) ∨
      (t.length = limit + 4 ∧ (t.take limit).getLast? ≠ some '\n' ∧
        t.drop limit = '\n' :: fence) := by
  have hfence : fence.length = 3 := rfl
  have hlength : (t.drop limit).length = t.length - limit := List.length_drop
  rw [user_eq_self_iff_closing]
  refine or_congr_right ?_
  by_cases hlast : (t.take limit).getLast? = some '\n'
  · have hclosing : closing (t.take limit) = fence := by
      rw [closing, if_pos hlast]
      rfl
    rw [hclosing]
    constructor
    · intro hdrop
      rw [hdrop, hfence] at hlength
      exact Or.inl ⟨by omega, hlast, hdrop⟩
    · rintro (⟨-, -, hdrop⟩ | ⟨-, hnot, -⟩)
      · exact hdrop
      · exact absurd hlast hnot
  · have hclosing : closing (t.take limit) = '\n' :: fence := by
      rw [closing, if_neg hlast]
      rfl
    rw [hclosing]
    constructor
    · intro hdrop
      rw [hdrop, List.length_cons, hfence] at hlength
      exact Or.inr ⟨by omega, hlast, hdrop⟩
    · rintro (⟨-, hnewline, -⟩ | ⟨-, -, hdrop⟩)
      · exact absurd hnewline hlast
      · exact hdrop

/-- The cut counts characters, also where it is made at a byte and noticed by the number of bytes. A
text becomes a question as it is if it has no more characters than the limit. Of a longer one the
first characters are kept, up to the limit, whatever bytes they have, and the fence is closed behind
them; what comes after them does not matter. The question is never more than four characters longer
than the limit. A longer text comes back as it is only where what has been cut off is just the
closing that is put in its place, of three characters or of four. -/
theorem message_cut_at_limit (t : Text) :
    message? t = some ⟨user t, decide (limit < t.length)⟩ ∧
    (user t = t ↔ t.length ≤ limit ∨
      (t.length = limit + 3 ∧ (t.take limit).getLast? = some '\n' ∧
        t.drop limit = "\x60\x60\x60".toList) ∨
      (t.length = limit + 4 ∧ (t.take limit).getLast? ≠ some '\n' ∧
        t.drop limit = "\n\x60\x60\x60".toList)) ∧
    (limit < t.length →
      user t = t.take limit ++
        ((if (t.take limit).getLast? = some '\n' then [] else ['\n']) ++ "\x60\x60\x60".toList) ∧
      (t.take limit).length = limit ∧
      ∃ k, Text.offset? limit t = some k ∧ Text.front? k t = some (t.take limit) ∧
        Text.utf8 (t.take limit) = (Text.utf8 t).take k) ∧
    (user t).length ≤ limit + 4 ∧
    ∀ t', limit < t.length → limit < t'.length → t.take limit = t'.take limit →
      user t = user t' := by
  refine ⟨message?_eq t, user_eq_self_iff, ?_, length_user_le t, fun t' => user_congr⟩
  intro hlong
  refine ⟨user_eq_append hlong, List.length_take_of_le (Nat.le_of_lt hlong), _,
    Text.offset?_of_lt hlong, ?_, Text.utf8_take limit t⟩
  exact Text.front?_eq_some_iff.mpr ⟨List.take_prefix limit t, rfl⟩

section Fixed
open Submission

theorem user_append_fence {kept : Text} (hlength : kept.length = limit)
    (hlast : kept.getLast? = some '\n') : user (kept ++ fence) = kept ++ fence := by
  refine user_eq_self_iff.mpr (Or.inr (Or.inl ⟨?_, ?_, List.drop_left' hlength⟩))
  · rw [List.length_append, hlength]
    rfl
  · rwa [List.take_left' hlength]

namespace Sample

/-- A submission that is all code. -/
def packed (letters : Nat) : Text :=
  "import x;".toList ++ '\n' :: (List.replicate letters 'y' ++ ['\n'])

/-- The rendering of it but for the closing fence. -/
def unclosed (letters : Nat) : Text :=
  "**HEADER:**\n\n\n**CODE:**\n\x60\x60\x60java\n".toList ++ packed letters

theorem render_packed (letters : Nat) :
    (normalize (packed letters)).render = unclosed letters ++ fence := by
  have hbetween : CodeBetween [] (packed letters) := by
    refine ⟨Or.inl rfl, "import".toList, by decide, ?_⟩
    unfold packed
    rw [Text.firstLine_cons (by decide)]
    decide
  obtain ⟨hheader, hcode⟩ := normalize_of_codeBetween hbetween
  unfold Parts.render unclosed
  simp only [hheader, hcode]
  rfl

theorem length_unclosed (letters : Nat) : (unclosed letters).length = letters + 43 := by
  have hlabels : "**HEADER:**\n\n\n**CODE:**\n\x60\x60\x60java\n".toList.length = 32 := rfl
  have hfirst : "import x;".toList.length = 9 := rfl
  unfold unclosed packed
  simp only [List.length_append, List.length_cons, List.length_replicate, List.length_nil, hlabels,
    hfirst]
  omega

theorem getLast?_unclosed (letters : Nat) : (unclosed letters).getLast? = some '\n' := by
  unfold unclosed packed
  simp [List.getLast?_append, List.getLast?_cons]

end Sample

/-- The rendering of a submission can come back as it is although it is longer than the limit. -/
theorem rendering_unchanged_beyond_limit :
    (normalize (Sample.packed 59957)).render.length = limit + 3 ∧
    user (normalize (Sample.packed 59957)).render = (normalize (Sample.packed 59957)).render ∧
    ¬ ∀ t, user t = t ↔ t.length ≤ limit := by
  have hkept : (Sample.unclosed 59957).length = limit := Sample.length_unclosed 59957
  have hlength : (Sample.unclosed 59957 ++ fence).length = limit + 3 := by
    rw [List.length_append, hkept]
    rfl
  have hfixed := user_append_fence hkept (Sample.getLast?_unclosed 59957)
  rw [Sample.render_packed]
  refine ⟨hlength, hfixed, ?_⟩
  intro hall
  have hshort := (hall _).mp hfixed
  rw [hlength] at hshort
  omega

end Fixed

end LabGrader.Prompt
