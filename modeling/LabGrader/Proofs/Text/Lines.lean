import LabGrader.Text.Blank
import LabGrader.Text.Lines
import Mathlib.Data.List.DropRight

/-!
# Rows of a text

A row holds one line feed at most, at its end, where trimming takes it off. Lines without line feeds
that are each ended by one are the rows of what they make up; with a line feed between each two of
them, they are what stands between two line feeds.
-/

namespace LabGrader.Text

section Trim
variable {t front back : Text} {c : Char}

theorem trim_isInfix (t : Text) : trim t <:+: t :=
  (List.rdropWhile_prefix isBlank (trimStart t)).isInfix.trans (List.dropWhile_suffix _).isInfix

theorem mem_of_mem_trim (h : c ∈ trim t) : c ∈ t := (trim_isInfix t).mem h

theorem not_isBlank_of_trimStart_eq_cons (h : trimStart t = c :: back) : isBlank c = false := by
  have hlength : 0 < (t.dropWhile isBlank).length := by
    change 0 < (trimStart t).length
    rw [h]
    exact Nat.succ_pos _
  have hfirst := List.dropWhile_get_zero_not isBlank t hlength
  simp only [List.get_eq_getElem, show t.dropWhile isBlank = c :: back from h] at hfirst
  exact Bool.not_eq_true _ ▸ hfirst

theorem not_isBlank_of_trim_eq_cons (h : trim t = c :: back) : isBlank c = false := by
  obtain ⟨rest, hrest⟩ := List.rdropWhile_prefix isBlank (trimStart t)
  have hstart : trimStart t = c :: (back ++ rest) := by
    rw [← hrest]
    exact congrArg (· ++ rest) h
  exact not_isBlank_of_trimStart_eq_cons hstart

theorem not_isBlank_of_trim_eq_concat (h : trim t = front ++ [c]) : isBlank c = false := by
  have hne : (trimStart t).rdropWhile isBlank ≠ [] := by
    change trim t ≠ []
    simp [h]
  have hlast := List.rdropWhile_last_not isBlank (trimStart t) hne
  simp only [show (trimStart t).rdropWhile isBlank = front ++ [c] from h,
    List.getLast_append_singleton] at hlast
  exact Bool.not_eq_true _ ▸ hlast

theorem trim_trim (t : Text) : trim (trim t) = trim t := by
  have hstart : trimStart (trim t) = trim t := by
    cases htrim : trim t with
    | nil => rfl
    | cons c back =>
      exact List.dropWhile_cons_of_neg (by simp [not_isBlank_of_trim_eq_cons htrim])
  rw [trim, hstart]
  exact List.rdropWhile_idempotent isBlank (trimStart t)

theorem trim_eq_nil_iff : trim t = [] ↔ ∀ c ∈ t, isBlank c = true := by
  have hend : trim t = [] ↔ ∀ c ∈ trimStart t, isBlank c = true := List.rdropWhile_eq_nil_iff
  rw [hend]
  constructor
  · intro h
    rw [← List.dropWhile_eq_nil_iff]
    cases hstart : trimStart t with
    | nil => exact hstart
    | cons c back =>
      have hblank := h c (by rw [hstart]; exact List.mem_cons_self)
      rw [not_isBlank_of_trimStart_eq_cons hstart] at hblank
      cases hblank
  · exact fun h c hc => h c ((List.dropWhile_sublist _).mem hc)

theorem trimEnd_append (hback : back.all isBlank = true) :
    trimEnd (t ++ back) = trimEnd t := by
  unfold trimEnd
  rw [List.reverse_append, List.dropWhile_append_of_pos]
  intro c hc
  exact List.all_eq_true.mp hback c (List.mem_reverse.mp hc)

theorem trim_append (hback : back.all isBlank = true) : trim (t ++ back) = trim t := by
  unfold trim trimStart
  rw [List.dropWhile_append]
  split
  · rename_i hempty
    rw [List.isEmpty_iff.mp hempty, List.dropWhile_eq_nil_iff.mpr (List.all_eq_true.mp hback)]
  · exact trimEnd_append hback

theorem filter_dropWhile {p keep : Char → Bool} (h : ∀ c, p c = true → keep c = false) (t : Text) :
    (t.dropWhile p).filter keep = t.filter keep := by
  have hdropped : (t.takeWhile p).filter keep = [] := by
    apply List.filter_eq_nil_iff.mpr
    intro c hc
    simp [h c (List.mem_takeWhile_imp hc)]
  calc (t.dropWhile p).filter keep
      = (t.takeWhile p).filter keep ++ (t.dropWhile p).filter keep := by
        rw [hdropped, List.nil_append]
    _ = t.filter keep := by rw [← List.filter_append, List.takeWhile_append_dropWhile]

theorem filter_trim {keep : Char → Bool} (h : ∀ c, isBlank c = true → keep c = false) (t : Text) :
    (trim t).filter keep = t.filter keep := by
  rw [trim, trimEnd, List.filter_reverse, filter_dropWhile h, List.filter_reverse,
    List.reverse_reverse, trimStart, filter_dropWhile h]

theorem dense_trim (t : Text) : dense (trim t) = dense t := by
  apply filter_trim
  intro c hc
  rw [hc]
  rfl

theorem mem_dense_iff : c ∈ dense t ↔ c ∈ t ∧ isBlank c = false := by
  simp [dense]

theorem trim_eq_singleton_iff (hc : isBlank c = false) : trim t = [c] ↔ dense t = [c] := by
  constructor
  · intro h
    rw [← dense_trim, h]
    simp [dense, hc]
  · intro h
    rw [← dense_trim] at h
    cases htrim : trim t with
    | nil =>
      rw [htrim] at h
      cases h
    | cons a rest =>
      have hfirst := not_isBlank_of_trim_eq_cons htrim
      rcases List.eq_nil_or_concat' rest with rfl | ⟨middle, b, rfl⟩
      · simpa [htrim, dense, hfirst] using h
      · -- the first and the last character would both be left
        rw [← List.cons_append] at htrim
        have hlast := not_isBlank_of_trim_eq_concat htrim
        have hlength := congrArg List.length h
        simp [htrim, dense, hfirst, hlast] at hlength

end Trim

section Suffix
variable {t front suffix : Text} {c : Char}

theorem dropSuffix?_append (t suffix : Text) : dropSuffix? suffix (t ++ suffix) = some t := by
  simp [dropSuffix?]

theorem dropSuffix?_of_notMem (h : c ∉ t) : dropSuffix? [c] t = none := by
  rw [dropSuffix?, if_neg]
  intro hsuffix
  exact h ((List.isSuffixOf_iff_suffix.mp hsuffix).mem (List.mem_singleton.mpr rfl))

theorem dropSuffix?_eq_none_iff : dropSuffix? suffix t = none ↔ ¬ suffix <:+ t := by
  rw [dropSuffix?, ← List.isSuffixOf_iff_suffix]
  split
  · rename_i hsuffix
    simp [hsuffix]
  · rename_i hsuffix
    simp [hsuffix]

theorem eq_append_of_dropSuffix? (h : dropSuffix? suffix t = some front) :
    t = front ++ suffix := by
  unfold dropSuffix? at h
  split at h
  · rename_i hsuffix
    cases h
    exact (List.suffix_iff_eq_append.mp (List.isSuffixOf_iff_suffix.mp hsuffix)).symm
  · cases h

end Suffix

section Rows
variable {t row line rest seen : Text} {lines : List Text}

theorem rowsFrom_of_mem (hseen : '\n' ∉ seen) (h : row ∈ rowsFrom seen t) :
    ∃ line, '\n' ∉ line ∧ (row = line ∨ row = line ++ ['\n']) := by
  induction t generalizing seen with
  | nil =>
    unfold rowsFrom at h
    split at h
    · cases h
    · exact ⟨seen.reverse, by simpa using hseen, Or.inl (List.mem_singleton.mp h)⟩
  | cons c t ih =>
    unfold rowsFrom at h
    split at h
    · rename_i hc
      rcases List.mem_cons.mp h with rfl | h
      · exact ⟨seen.reverse, by simpa using hseen, Or.inr (by simp [hc])⟩
      · exact ih List.not_mem_nil h
    · rename_i hc
      exact ih (by simp [hseen, Ne.symm hc]) h

/-- A row holds no line feed but the one that ends it. -/
theorem exists_line_of_mem_rows (h : row ∈ rows t) :
    ∃ line, '\n' ∉ line ∧ (row = line ∨ row = line ++ ['\n']) :=
  rowsFrom_of_mem List.not_mem_nil h

theorem newline_notMem_trim_row (h : row ∈ rows t) : '\n' ∉ trim row := by
  obtain ⟨line, hline, rfl | rfl⟩ := exists_line_of_mem_rows h
  · exact fun hmem => hline (mem_of_mem_trim hmem)
  · rw [trim_append rfl]
    exact fun hmem => hline (mem_of_mem_trim hmem)

theorem rowsFrom_split (h : row ∈ rowsFrom seen t) :
    ∃ front back, seen.reverse ++ t = front ++ row ++ back ∧
      (front = [] ∨ ∃ before, front = before ++ ['\n']) ∧
      (back = [] ∨ ∃ line, row = line ++ ['\n']) := by
  induction t generalizing seen with
  | nil =>
    unfold rowsFrom at h
    split at h
    · cases h
    · exact ⟨[], [], by simp [List.mem_singleton.mp h], Or.inl rfl, Or.inl rfl⟩
  | cons c t ih =>
    unfold rowsFrom at h
    split at h
    · rename_i hc
      rcases List.mem_cons.mp h with rfl | h
      · exact ⟨[], t, by simp, Or.inl rfl, Or.inr ⟨seen.reverse, by simp [hc]⟩⟩
      · -- the row stands behind the one that ends here
        obtain ⟨front, back, heq, hfront, hback⟩ := ih h
        refine ⟨seen.reverse ++ c :: front, back, by simpa using heq, Or.inr ?_, hback⟩
        rcases hfront with rfl | ⟨before, rfl⟩
        · exact ⟨seen.reverse, by rw [hc]⟩
        · exact ⟨seen.reverse ++ c :: before, by simp⟩
    · obtain ⟨front, back, heq, hends⟩ := ih h
      exact ⟨front, back, by simpa using heq, hends⟩

/-- A row begins at the front or behind a line feed, and ends at the end or in a line feed. -/
theorem exists_append_of_mem_rows (h : row ∈ rows t) :
    ∃ front back, t = front ++ row ++ back ∧
      (front = [] ∨ ∃ before, front = before ++ ['\n']) ∧
      (back = [] ∨ ∃ line, row = line ++ ['\n']) := rowsFrom_split h

theorem exists_chomp_append (row : Text) : ∃ back, row = chomp row ++ back ∧ back.all isBlank := by
  unfold chomp
  cases hline : dropSuffix? ['\n'] row with
  | none => exact ⟨[], by simp, rfl⟩
  | some line =>
    have hrow := eq_append_of_dropSuffix? hline
    cases hfront : dropSuffix? ['\r'] line with
    | none => exact ⟨['\n'], by simp [hrow, hfront], rfl⟩
    | some front =>
      obtain rfl := eq_append_of_dropSuffix? hfront
      exact ⟨['\r', '\n'], by simp [hrow, dropSuffix?_append], rfl⟩

theorem trim_chomp (row : Text) : trim (chomp row) = trim row := by
  obtain ⟨back, hrow, hback⟩ := exists_chomp_append row
  rw [← trim_append hback, ← hrow]

theorem nil_notMem_rowsFrom (seen t : Text) : [] ∉ rowsFrom seen t := by
  induction t generalizing seen with
  | nil =>
    unfold rowsFrom
    split
    · exact List.not_mem_nil
    · rename_i hseen
      simpa using fun h => hseen (by simp [h])
  | cons c t ih =>
    unfold rowsFrom
    split
    · simpa using ih []
    · exact ih (c :: seen)

theorem nil_notMem_rows : [] ∉ rows t := nil_notMem_rowsFrom [] t

theorem newline_notMem_of_concat_mem_rows (h : line ++ ['\n'] ∈ rows t) : '\n' ∉ line := by
  obtain ⟨inner, hinner, heq | heq⟩ := exists_line_of_mem_rows h
  · exact fun _ => hinner (heq ▸ by simp)
  · rwa [List.append_cancel_right heq]

theorem newline_notMem_of_mem_lines (h : line ∈ Text.lines t) : '\n' ∉ line := by
  obtain ⟨row, hrow, rfl⟩ := List.mem_map.mp h
  obtain ⟨inner, hinner, rfl | rfl⟩ := exists_line_of_mem_rows hrow
  · obtain ⟨back, heq, _⟩ := exists_chomp_append row
    intro hmem
    exact hinner (heq.symm ▸ List.mem_append_left back hmem)
  · simp only [chomp, dropSuffix?_append]
    cases hfront : dropSuffix? ['\r'] inner with
    | none => exact hinner
    | some front =>
      intro hmem
      exact hinner (eq_append_of_dropSuffix? hfront ▸ List.mem_append_left _ hmem)

/-- What stands between two line feeds of joined lines is one of the lines. -/
theorem mem_of_infix_joinWith (hlines : ∀ line ∈ lines, '\n' ∉ line) (hline : '\n' ∉ line)
    (h : '\n' :: line ++ ['\n'] <:+: joinWith ['\n'] lines) : line ∈ lines := by
  obtain ⟨front, back, heq⟩ := h
  have hne : lines ≠ [] := by
    rintro rfl
    simp [joinWith] at heq
  have hsplit : (joinWith ['\n'] lines).splitOn '\n' = lines :=
    List.splitOn_intercalate '\n' hlines hne
  rw [← hsplit, ← heq]
  have hshape : front ++ ('\n' :: line ++ ['\n']) ++ back =
      front ++ '\n' :: (line ++ '\n' :: back) := by simp
  rw [hshape, List.splitOn_append_cons_self, List.splitOn_append_cons_self,
    List.splitOn_eq_singleton hline]
  simp

theorem rowsFrom_append (h : '\n' ∉ line) (seen rest : Text) :
    rowsFrom seen (line ++ '\n' :: rest) =
      (seen.reverse ++ line ++ ['\n']) :: rowsFrom [] rest := by
  induction line generalizing seen with
  | nil => simp [rowsFrom]
  | cons c line ih =>
    rw [List.mem_cons, not_or] at h
    rw [List.cons_append, rowsFrom, if_neg (Ne.symm h.1), ih h.2]
    simp

theorem rows_cons (h : '\n' ∉ line) (rest : Text) :
    rows (line ++ '\n' :: rest) = (line ++ ['\n']) :: rows rest := rowsFrom_append h [] rest

theorem rows_flatMap {lines : List Text} (h : ∀ line ∈ lines, '\n' ∉ line) :
    rows (lines.flatMap fun line => line ++ ['\n']) = lines.map fun line => line ++ ['\n'] := by
  induction lines with
  | nil => rfl
  | cons line lines ih =>
    have hrest := ih fun line hline => h line (List.mem_cons_of_mem _ hline)
    have hsplit : (line :: lines).flatMap (fun line => line ++ ['\n']) =
        line ++ '\n' :: lines.flatMap fun line => line ++ ['\n'] := by simp
    rw [hsplit, rows_cons (h line List.mem_cons_self), hrest]
    rfl

end Rows

section ByLines
variable {t line rest front back : Text} {n : Nat}

/-- A text is a line without a line feed, or such a line and a line feed before another text. -/
@[elab_as_elim]
theorem line_induction {P : Text → Prop} (last : ∀ line, '\n' ∉ line → P line)
    (cons : ∀ line rest, '\n' ∉ line → P rest → P (line ++ '\n' :: rest)) (t : Text) : P t := by
  induction hlength : t.length using Nat.strongRecOn generalizing t with
  | ind n ih =>
    by_cases hmem : '\n' ∈ t
    · obtain ⟨line, rest, rfl, hline⟩ := List.eq_append_cons_of_mem hmem
      exact cons line rest hline (ih rest.length (by simp at hlength; omega) rest rfl)
    · exact last t hmem

theorem rowsFrom_of_notMem (h : '\n' ∉ line) (seen : Text) :
    rowsFrom seen line = if seen.reverse ++ line = [] then [] else [seen.reverse ++ line] := by
  induction line generalizing seen with
  | nil => cases seen <;> simp [rowsFrom]
  | cons c line ih =>
    rw [List.mem_cons, not_or] at h
    rw [rowsFrom, if_neg (Ne.symm h.1), ih h.2]
    simp

theorem rows_of_notMem (h : '\n' ∉ line) : rows line = if line = [] then [] else [line] :=
  rowsFrom_of_notMem h []

/-- Whether a line starts behind `front`. -/
def EndsLine (front : Text) : Prop := front = [] ∨ ∃ before, front = before ++ ['\n']

theorem endsLine_behind (h : EndsLine (line ++ '\n' :: rest)) : EndsLine rest := by
  rcases List.eq_nil_or_concat' rest with rfl | ⟨before, c, rfl⟩
  · exact Or.inl rfl
  · obtain ⟨whole, hwhole⟩ := h.resolve_left (by simp)
    have hlast : (line ++ '\n' :: before) ++ [c] = whole ++ ['\n'] := by simpa using hwhole
    obtain ⟨-, hc⟩ := List.append_inj' hlast rfl
    exact Or.inr ⟨before, by rw [(List.cons.inj hc).1]⟩

theorem rows_append (h : EndsLine front) (back : Text) :
    rows (front ++ back) = rows front ++ rows back := by
  induction front using line_induction with
  | last line hline =>
    rcases h with rfl | ⟨before, rfl⟩
    · rfl
    · exact absurd (by simp) hline
  | cons line rest hline ih =>
    rw [List.append_assoc, List.cons_append, rows_cons hline, rows_cons hline,
      ih (endsLine_behind h), List.cons_append]

/-- The rows from one on are the rows of what they make up. -/
theorem rows_flatten_drop (t : Text) (n : Nat) :
    rows ((rows t).drop n).flatten = (rows t).drop n := by
  induction t using line_induction generalizing n with
  | last line hline =>
    cases n with
    | zero => rw [List.drop_zero, flatten_rows]
    | succ n =>
      rw [rows_of_notMem hline]
      split <;> simp [rows, rowsFrom]
  | cons line rest hline ih =>
    cases n with
    | zero => rw [List.drop_zero, flatten_rows]
    | succ n => rw [rows_cons hline, List.drop_succ_cons, ih]

theorem endsLine_flatten_take (h : n < (rows t).length) : EndsLine ((rows t).take n).flatten := by
  induction t using line_induction generalizing n with
  | last line hline =>
    rw [rows_of_notMem hline] at h
    have hn : n = 0 := by
      split at h <;> simp at h
      exact h
    exact Or.inl (by rw [hn]; rfl)
  | cons line rest hline ih =>
    rw [rows_cons hline] at h ⊢
    cases n with
    | zero => exact Or.inl rfl
    | succ n =>
      rw [List.take_succ_cons, List.flatten_cons]
      rcases ih (Nat.lt_of_succ_lt_succ h) with hnil | ⟨before, hbefore⟩
      · exact Or.inr ⟨line, by rw [hnil, List.append_nil]⟩
      · exact Or.inr ⟨line ++ ['\n'] ++ before, by simp [hbefore]⟩

/-- The line that stands at the front of a text. -/
def firstLine (t : Text) : Text := t.takeWhile (· ≠ '\n')

theorem ne_newline_of_mem (h : '\n' ∉ line) : ∀ c ∈ line, decide (c ≠ '\n') = true :=
  fun _ hc => decide_eq_true (ne_of_mem_of_not_mem hc h)

theorem firstLine_append (h : '\n' ∉ line) (back : Text) :
    firstLine (line ++ back) = line ++ firstLine back :=
  List.takeWhile_append_of_pos (ne_newline_of_mem h)

theorem firstLine_of_notMem (h : '\n' ∉ line) : firstLine line = line :=
  List.takeWhile_eq_self_iff.mpr (ne_newline_of_mem h)

theorem firstLine_cons (h : '\n' ∉ line) (rest : Text) :
    firstLine (line ++ '\n' :: rest) = line := by
  rw [firstLine_append h]
  exact List.append_nil line

theorem rows_eq_cons (h : t ≠ []) :
    ∃ row later, rows t = row :: later ∧ trim row = trim (firstLine t) := by
  induction t using line_induction with
  | last line hline =>
    refine ⟨line, [], ?_, by rw [firstLine_of_notMem hline]⟩
    rw [rows_of_notMem hline, if_neg h]
  | cons line rest hline _ =>
    refine ⟨line ++ ['\n'], rows rest, rows_cons hline rest, ?_⟩
    rw [firstLine_cons hline, trim_append rfl]

end ByLines

end LabGrader.Text
