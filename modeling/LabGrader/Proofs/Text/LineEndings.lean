import LabGrader.Proofs.Text.Lines
import Mathlib.Data.List.Forall2

/-!
# Lines under either line ending

A row ends at a line feed, and a carriage return before that is blank. So a text and its form with
carriage returns fall into rows at the same places, and their rows and lines differ in blanks at the
end at most.
-/

namespace LabGrader.Text

/-- The text with a carriage return before every line feed. -/
def crlf (t : Text) : Text := t.flatMap fun c => if c = '\n' then ['\r', '\n'] else [c]

section Crlf
variable {t row line rest seen : Text} {c : Char}

theorem crlf_nil : crlf [] = [] := rfl

theorem crlf_append (s t : Text) : crlf (s ++ t) = crlf s ++ crlf t := List.flatMap_append

theorem crlf_flatten (ts : List Text) : (ts.map crlf).flatten = crlf ts.flatten := by
  induction ts with
  | nil => rfl
  | cons t ts ih => rw [List.map_cons, List.flatten_cons, List.flatten_cons, crlf_append, ih]

theorem crlf_cons_newline : crlf ('\n' :: t) = '\r' :: '\n' :: crlf t := rfl

theorem crlf_cons (hc : c ≠ '\n') : crlf (c :: t) = c :: crlf t := by
  simp [crlf, hc]

theorem crlf_of_notMem (h : '\n' ∉ line) : crlf line = line := by
  induction line with
  | nil => rfl
  | cons c line ih =>
    rw [List.mem_cons, not_or] at h
    rw [crlf_cons (Ne.symm h.1), ih h.2]

/-- Only a carriage return can be at the front of one text and not of the other. -/
theorem exists_of_crlf_eq_cons (h : crlf t = c :: rest) (hc : c ≠ '\r') : ∃ t', t = c :: t' := by
  cases t with
  | nil => cases h
  | cons d t =>
    by_cases hd : d = '\n'
    · subst d
      rw [crlf_cons_newline] at h
      exact absurd (List.cons.inj h).1.symm hc
    · rw [crlf_cons hd] at h
      exact ⟨t, by rw [(List.cons.inj h).1]⟩

theorem rowsFrom_crlf (hseen : '\n' ∉ seen) :
    rowsFrom seen (crlf t) = (rowsFrom seen t).map crlf := by
  induction t generalizing seen with
  | nil =>
    rw [crlf_nil, rowsFrom]
    split
    · rfl
    · rw [List.map_singleton, crlf_of_notMem (by simpa using hseen)]
  | cons c t ih =>
    by_cases hc : c = '\n'
    · subst c
      have hrow : crlf (seen.reverse ++ ['\n']) = seen.reverse ++ ['\r', '\n'] := by
        rw [crlf_append, crlf_of_notMem (by simpa using hseen)]
        rfl
      simp [crlf_cons_newline, rowsFrom, ih List.not_mem_nil, hrow]
    · rw [crlf_cons hc, rowsFrom, if_neg hc, rowsFrom, if_neg hc]
      exact ih (by simp [hseen, Ne.symm hc])

theorem rows_crlf (t : Text) : rows (crlf t) = (rows t).map crlf := rowsFrom_crlf List.not_mem_nil

theorem trim_crlf (h : row ∈ rows t) : trim (crlf row) = trim row := by
  obtain ⟨line, hline, rfl | rfl⟩ := exists_line_of_mem_rows h
  · rw [crlf_of_notMem hline]
  · rw [crlf_append, crlf_of_notMem hline, trim_append rfl, trim_append rfl]

theorem map_trim_rows_crlf (t : Text) : (rows (crlf t)).map trim = (rows t).map trim := by
  rw [rows_crlf, List.map_map]
  exact List.map_congr_left fun row hrow => trim_crlf hrow

theorem forall₂_splitOn_crlf (t : Text) :
    List.Forall₂ (fun a b => a = b ∨ a = b ++ ['\r']) ((crlf t).splitOn '\n') (t.splitOn '\n') := by
  induction t with
  | nil => exact .cons (Or.inl rfl) .nil
  | cons c t ih =>
    by_cases hc : c = '\n'
    · subst c
      simp only [crlf_cons_newline, List.splitOn_cons_eq_if_modifyHead]
      exact .cons (Or.inr rfl) ih
    · rw [crlf_cons hc, List.splitOn_cons_eq_if_modifyHead, List.splitOn_cons_eq_if_modifyHead,
        if_neg (by simpa using hc), if_neg (by simpa using hc)]
      generalize (crlf t).splitOn '\n' = returned, t.splitOn '\n' = plain at ih ⊢
      cases ih with
      | nil => exact .nil
      | cons hline hrest =>
        rcases hline with rfl | rfl
        · exact .cons (Or.inl rfl) hrest
        · exact .cons (Or.inr rfl) hrest

theorem map_trim_splitOn_crlf (t : Text) :
    ((crlf t).splitOn '\n').map trim = (t.splitOn '\n').map trim := by
  rw [← List.forall₂_eq_eq_eq]
  apply List.forall₂_map_left_iff.mpr
  apply List.forall₂_map_right_iff.mpr
  apply (forall₂_splitOn_crlf t).imp
  rintro _ line (rfl | rfl)
  · rfl
  · exact trim_append rfl

theorem chomp_crlf (h : row ∈ rows t) (hreturn : '\r' ∉ t) : chomp (crlf row) = chomp row := by
  have hrow : '\r' ∉ row := fun hmem =>
    hreturn (flatten_rows t ▸ List.mem_flatten.mpr ⟨row, h, hmem⟩)
  obtain ⟨line, hline, rfl | rfl⟩ := exists_line_of_mem_rows h
  · rw [crlf_of_notMem hline]
  · rw [List.mem_append, not_or] at hrow
    have hnone : dropSuffix? ['\r'] line = none := dropSuffix?_of_notMem hrow.1
    have hend : crlf (line ++ ['\n']) = (line ++ ['\r']) ++ ['\n'] := by
      rw [crlf_append, crlf_of_notMem hline, List.append_assoc]
      rfl
    rw [hend, chomp, chomp, dropSuffix?_append, dropSuffix?_append]
    simp only [hnone, dropSuffix?_append, Option.getD_some, Option.getD_none]

theorem lines_crlf (hreturn : '\r' ∉ t) : lines (crlf t) = lines t := by
  rw [lines, rows_crlf, List.map_map]
  exact List.map_congr_left fun row hrow => chomp_crlf hrow hreturn

end Crlf

end LabGrader.Text
