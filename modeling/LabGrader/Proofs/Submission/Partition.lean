import LabGrader.Proofs.Submission.Cleaning

/-!
# What becomes of a submission's text

Normalizing cuts a text in two, at the start of the first line that belongs to code. Behind the cut
it keeps everything. Before the cut it takes out slashes, stars and blanks, and nothing else.
-/

namespace LabGrader.Submission

section Code
variable {a b text : Text} {rows : List Text}

/-- Whether the code can start between `front` and `back`: a line starts there, and without the
blanks around it it starts with a mark of code. -/
structure CodeBetween (front back : Text) : Prop where
  endsLine : Text.EndsLine front
  marked : ∃ mark ∈ codeMarks, mark <+: Text.trim (Text.firstLine back)

theorem startsCode_iff (row : Text) :
    startsCode row = true ↔ ∃ mark ∈ codeMarks, mark <+: Text.trim row := by
  simp [startsCode, List.any_eq_true, List.isPrefixOf_iff_prefix]

theorem startsCode_congr {row row' : Text} (h : Text.trim row = Text.trim row') :
    startsCode row = startsCode row' := by
  rw [startsCode, startsCode, h]

theorem CodeBetween.rows_eq (h : CodeBetween a b) :
    ∃ row later, Text.rows (a ++ b) = Text.rows a ++ row :: later ∧ startsCode row = true := by
  have hne : b ≠ [] := by
    rintro rfl
    obtain ⟨mark, hmem, hmark⟩ := h.marked
    have hnil : mark = [] := List.prefix_nil.mp hmark
    revert hmem
    rw [hnil]
    decide
  obtain ⟨row, later, hrows, htrim⟩ := Text.rows_eq_cons hne
  refine ⟨row, later, by rw [Text.rows_append h.endsLine, hrows], ?_⟩
  rw [startsCode_congr htrim]
  exact (startsCode_iff _).mpr h.marked

def preamble (text : Text) : Text := ((Text.rows text).take (codeStart (Text.rows text))).flatten

theorem header_eq (text : Text) : (normalize text).header = cleanHeader (preamble text) := by
  rw [normalize, preamble]

theorem code_eq (text : Text) :
    (normalize text).code = ((Text.rows text).drop (codeStart (Text.rows text))).flatten := by
  rw [normalize]

theorem preamble_append_code (text : Text) : preamble text ++ (normalize text).code = text := by
  rw [preamble, code_eq, ← List.flatten_append, List.take_append_drop, Text.flatten_rows]

theorem CodeBetween.preamble_prefix (h : CodeBetween a b) : preamble (a ++ b) <+: a := by
  obtain ⟨row, later, hrows, hrow⟩ := h.rows_eq
  have hstart : codeStart (Text.rows a ++ row :: later) ≤ (Text.rows a).length := by
    rw [codeStart, List.findIdx_append]
    split
    · exact List.findIdx_le_length
    · rw [List.findIdx_cons, hrow]
      exact (Nat.zero_add _).le
  rw [preamble, hrows, List.take_append_of_le_length hstart]
  refine ⟨((Text.rows a).drop (codeStart (Text.rows a ++ row :: later))).flatten, ?_⟩
  rw [← List.flatten_append, List.take_append_drop, Text.flatten_rows]

/-- A text that starts with its code is code as a whole. -/
theorem normalize_of_codeBetween (h : CodeBetween [] b) :
    (normalize b).header = [] ∧ (normalize b).code = b := by
  have hpreamble : preamble b = [] := List.prefix_nil.mp h.preamble_prefix
  constructor
  · rw [header_eq, hpreamble]
    rfl
  · have happend := preamble_append_code b
    rwa [hpreamble, List.nil_append] at happend

theorem rows_code (text : Text) :
    Text.rows (normalize text).code = (Text.rows text).drop (codeStart (Text.rows text)) := by
  rw [code_eq, Text.rows_flatten_drop]

theorem rows_code_cases (text : Text) :
    ((normalize text).code = [] ∧ ∀ row ∈ Text.rows text, startsCode row = false) ∨
    ∃ row later, Text.rows (normalize text).code = row :: later ∧ startsCode row = true ∧
      codeStart (Text.rows text) < (Text.rows text).length := by
  rw [rows_code]
  by_cases hstart : codeStart (Text.rows text) < (Text.rows text).length
  · refine Or.inr ⟨_, _, List.drop_eq_getElem_cons hstart, ?_, hstart⟩
    exact List.findIdx_getElem
  · refine Or.inl ⟨?_, ?_⟩
    · rw [code_eq, List.drop_eq_nil_of_le (Nat.le_of_not_lt hstart)]
      rfl
    · exact List.findIdx_eq_length.mp
        (Nat.le_antisymm List.findIdx_le_length (Nat.le_of_not_lt hstart))

theorem codeBetween_preamble (h : (normalize text).code ≠ []) :
    CodeBetween (preamble text) (normalize text).code := by
  obtain ⟨row, later, hrows, hrow, hstart⟩ := (rows_code_cases text).resolve_left fun hnone => h hnone.1
  obtain ⟨row', later', hrows', htrim⟩ := Text.rows_eq_cons h
  obtain ⟨rfl, -⟩ := List.cons.inj (hrows.symm.trans hrows')
  refine ⟨Text.endsLine_flatten_take hstart, ?_⟩
  exact (startsCode_iff _).mp (startsCode_congr htrim ▸ hrow)

theorem code_eq_nil_iff (text : Text) :
    (normalize text).code = [] ↔ ∀ a b, text = a ++ b → ¬ CodeBetween a b := by
  constructor
  · rintro hnil a b rfl hbetween
    obtain ⟨row, later, hrows, hrow⟩ := hbetween.rows_eq
    rcases rows_code_cases (a ++ b) with ⟨-, hnone⟩ | ⟨row', later', hrows', -⟩
    · have hfalse := hnone row (by rw [hrows]; simp)
      rw [hrow] at hfalse
      cases hfalse
    · rw [hnil] at hrows'
      cases hrows'
  · -- where there is code it starts in such a place itself
    intro hnone
    by_contra hne
    exact hnone _ _ (preamble_append_code text).symm (codeBetween_preamble hne)

theorem codeStart_code (text : Text) : codeStart (Text.rows (normalize text).code) = 0 := by
  rcases rows_code_cases text with ⟨hnil, -⟩ | ⟨row, later, hrows, hrow, -⟩
  · rw [hnil]
    rfl
  · rw [hrows, codeStart, List.findIdx_cons, hrow]
    rfl

theorem normalize_code (text : Text) :
    (normalize (normalize text).code).code = (normalize text).code ∧
    (normalize (normalize text).code).header = [] := by
  constructor
  · rw [code_eq, codeStart_code, List.drop_zero, Text.flatten_rows]
  · rw [header_eq, preamble, codeStart_code]
    rfl

/-- The first row with a mark, whatever other marks there are. -/
def markedRow? (rows : List Text) (mark : Text) : Option Nat :=
  rows.findIdx? fun row => mark.isPrefixOf (Text.trim row)

theorem startsCode_of_markedRow? {mark : Text} {i : Nat} (hmark : mark ∈ codeMarks)
    (h : markedRow? rows mark = some i) : ∃ hi : i < rows.length, startsCode rows[i] = true := by
  obtain ⟨hi, hrow, -⟩ := List.findIdx?_eq_some_iff_getElem.mp h
  exact ⟨hi, List.any_eq_true.mpr ⟨mark, hmark, hrow⟩⟩

theorem min?_markedRow? (hstart : codeStart rows < rows.length) :
    (codeMarks.filterMap (markedRow? rows)).min? = some (codeStart rows) := by
  apply List.min?_eq_some_iff.mpr
  constructor
  · -- the mark of the first row of code is not found earlier, since no earlier row has a mark
    have hrow : startsCode rows[codeStart rows] = true := List.findIdx_getElem
    obtain ⟨mark, hmark, hprefix⟩ := List.any_eq_true.mp hrow
    refine List.mem_filterMap.mpr ⟨mark, hmark, ?_⟩
    refine List.findIdx?_eq_some_iff_getElem.mpr ⟨hstart, hprefix, ?_⟩
    intro j hj hother
    have hnone : startsCode rows[j] = false := List.not_of_lt_findIdx hj
    exact Bool.false_ne_true (hnone.symm.trans (List.any_eq_true.mpr ⟨mark, hmark, hother⟩))
  · intro j hj
    obtain ⟨mark, hmark, hfound⟩ := List.mem_filterMap.mp hj
    obtain ⟨hlt, hrow⟩ := startsCode_of_markedRow? hmark hfound
    refine Nat.le_of_not_lt fun hbefore => ?_
    rw [List.not_of_lt_findIdx hbefore] at hrow
    cases hrow

theorem codeStart_eq_min (rows : List Text) :
    codeStart rows = ((codeMarks.filterMap (markedRow? rows)).min?).getD rows.length := by
  by_cases hstart : codeStart rows < rows.length
  · rw [min?_markedRow? hstart, Option.getD_some]
  · have hlength : codeStart rows = rows.length :=
      Nat.le_antisymm List.findIdx_le_length (Nat.le_of_not_lt hstart)
    have hnone : codeMarks.filterMap (markedRow? rows) = [] := by
      apply List.filterMap_eq_nil_iff.mpr
      intro mark hmark
      apply List.findIdx?_eq_none_iff.mpr
      intro row hrow
      have hfalse : startsCode row = false := List.findIdx_eq_length.mp hlength row hrow
      exact Bool.eq_false_iff.mpr (List.any_eq_false.mp hfalse mark hmark)
    rw [hnone, hlength]
    rfl

/-- A text is cut at the first line that, without the blanks around it, starts with a mark of code;
without such a line it has no code. The header has the characters before the cut in their order, but
for slashes, stars and blanks, and the code is what stands behind the cut. Code is not cut again. -/
theorem normalize_partition (text : Text) :
    ∃ front, text = front ++ (normalize text).code ∧
      ((normalize text).code = [] ↔ ∀ a b, text = a ++ b → ¬ CodeBetween a b) ∧
      ((normalize text).code ≠ [] → CodeBetween front (normalize text).code) ∧
      (∀ a b, text = a ++ b → CodeBetween a b → front <+: a) ∧
      codeStart (Text.rows text) =
        ((codeMarks.filterMap (markedRow? (Text.rows text))).min?).getD (Text.rows text).length ∧
      gist (normalize text).header = gist front ∧
      (normalize (normalize text).code).code = (normalize text).code ∧
      (normalize (normalize text).code).header = [] := by
  refine ⟨preamble text, (preamble_append_code text).symm, code_eq_nil_iff text,
    codeBetween_preamble, ?_, codeStart_eq_min _, ?_, normalize_code text⟩
  · rintro a b rfl hbetween
    exact hbetween.preamble_prefix
  · rw [header_eq, gist_cleanHeader]

/-- A mark behind slashes is part of the header. -/
example : normalize "/** Ada / 7 **/\n// import a\n\n  public class B\nimport c;".toList =
    ⟨"Ada  7".toList, "Ada / 7 *\nimport a".toList, "  public class B\nimport c;".toList⟩ := by
  decide +kernel

end Code

end LabGrader.Submission
