import LabGrader.Proofs.Text.LineEndings
import LabGrader.Number.Binary
import LabGrader.Style
import LabGrader.Submission

/-!
# Grading under either line ending

The scan goes on after a carriage return and a line feed as it does after the line feed alone. All
else that is done with a submission looks at its lines without the blanks around them, or without
their ends, so only the code keeps its line endings.
-/

namespace LabGrader

open Text (crlf)

namespace Source

/-- Only a quote opens a literal, so no end of a line closes one. -/
def Mode.Sound : Mode → Prop
  | .literal quote _ => isQuote quote = true
  | _ => True

theorem Mode.inLiteral_sound {quote : Char} (h : isQuote quote = true) (c : Char) :
    (Mode.inLiteral quote c).Sound := by
  unfold Mode.inLiteral
  split
  · exact h
  · split
    · trivial
    · exact h

theorem blanked_ne_newline {c : Char} (hc : c ≠ '\n') : blanked c ≠ '\n' := by
  unfold blanked
  split
  · exact hc
  · decide

/-- A backslash escapes the carriage return instead of the line feed, which makes no difference
behind them: neither closes a literal. -/
theorem scan_return {mode : Mode} (hmode : mode.Sound) (t : Text) :
    scan mode ('\r' :: '\n' :: t) = '\r' :: scan mode ('\n' :: t) := by
  cases mode with
  | code => simp [scan, isQuote]
  | lineComment => simp [scan, blanked]
  | blockComment => simp [scan, blanked]
  | literal quote escaped =>
    have hreturn : '\r' ≠ quote := by rintro rfl; cases hmode
    have hnewline : '\n' ≠ quote := by rintro rfl; cases hmode
    cases escaped <;> simp [scan, Mode.inLiteral, blanked, hreturn, hnewline]

theorem scan_crlf_newline {mode next : Mode} {t : Text} (hmode : mode.Sound)
    (hstep : ∀ t, scan mode ('\n' :: t) = '\n' :: scan next t)
    (ih : scan next (crlf t) = crlf (scan next t)) :
    scan mode (crlf ('\n' :: t)) = crlf ('\n' :: scan next t) := by
  rw [Text.crlf_cons_newline, scan_return hmode, hstep, ih, Text.crlf_cons_newline]

theorem scan_crlf_blanked {mode next : Mode} {c : Char} {t : Text} (hmode : mode.Sound)
    (hstep : ∀ t, scan mode (c :: t) = blanked c :: scan next t)
    (ih : scan next (crlf t) = crlf (scan next t)) :
    scan mode (crlf (c :: t)) = crlf (blanked c :: scan next t) := by
  by_cases hc : c = '\n'
  · subst c
    exact scan_crlf_newline hmode hstep ih
  · rw [Text.crlf_cons hc, Text.crlf_cons (blanked_ne_newline hc), hstep, ih]

theorem scan_crlf (mode : Mode) (hmode : mode.Sound) (t : Text) :
    scan mode (crlf t) = crlf (scan mode t) := by
  fun_induction scan mode t with
  | case1 mode => simp [Text.crlf_nil, scan]
  | case2 rest ih => simp [Text.crlf_cons, scan, ih trivial]
  | case3 rest ih => simp [Text.crlf_cons, scan, ih trivial]
  | case4 c rest hline hblock hquote ih =>
    have hc : c ≠ '\n' := by rintro rfl; cases hquote
    rw [Text.crlf_cons hc, Text.crlf_cons (by decide), scan, if_pos hquote, ih hquote]
    · rintro rest' rfl -
      cases hquote
    · rintro rest' rfl -
      cases hquote
  | case5 c rest hline hblock hquote ih =>
    by_cases hc : c = '\n'
    · subst c
      exact scan_crlf_newline hmode (by simp [scan, isQuote]) (ih trivial)
    · rw [Text.crlf_cons hc, Text.crlf_cons hc, scan, if_neg hquote, ih trivial]
      · intro rest' hslash hrest
        obtain ⟨_, rfl⟩ := Text.exists_of_crlf_eq_cons hrest (by decide)
        exact hline _ hslash rfl
      · intro rest' hslash hrest
        obtain ⟨_, rfl⟩ := Text.exists_of_crlf_eq_cons hrest (by decide)
        exact hblock _ hslash rfl
  | case6 c rest ih =>
    have hnext : (if c = '\n' then Mode.code else .lineComment).Sound := by
      split <;> trivial
    exact scan_crlf_blanked hmode (fun t => by rw [scan]) (ih hnext)
  | case7 rest ih => simp [Text.crlf_cons, scan, ih trivial]
  | case8 c rest hclose ih =>
    by_cases hc : c = '\n'
    · subst c
      exact scan_crlf_newline hmode (by simp [scan, blanked]) (ih trivial)
    · rw [Text.crlf_cons hc, Text.crlf_cons (blanked_ne_newline hc), scan, ih trivial]
      intro rest' hstar hrest
      obtain ⟨_, rfl⟩ := Text.exists_of_crlf_eq_cons hrest (by decide)
      exact hclose _ hstar rfl
  | case9 quote c rest ih => exact scan_crlf_blanked hmode (fun t => by rw [scan]) (ih hmode)
  | case10 quote c rest ih =>
    exact scan_crlf_blanked hmode (fun t => by rw [scan]) (ih (Mode.inLiteral_sound hmode c))

theorem strip_crlf (t : Text) : strip (crlf t) = crlf (strip t) := scan_crlf .code trivial t

end Source

namespace Style

theorem braceViolations_crlf (stripped : Text) :
    braceViolations (crlf stripped) = braceViolations stripped := by
  have hcount : ∀ t : Text, braceViolations t = ((t.splitOn '\n').map Text.trim).countP
      fun line => hasBrace line && line ≠ ['{'] && line ≠ ['}'] := by
    intro t
    rw [List.countP_map]
    rfl
  rw [hcount, hcount, Text.map_trim_splitOn_crlf]

theorem boundaryViolation_congr {rows rows' : List Text} (required : Text)
    (h : rows.map Text.trim = rows'.map Text.trim) :
    boundaryViolation rows required = boundaryViolation rows' required := by
  have hprints : prints rows = prints rows' := by rw [prints, prints, h]
  rw [boundaryViolation, boundaryViolation, hprints]

theorem analyze_crlf (round : Rounding) (t : Text) (costs : Costs) (required : Text) :
    analyze round (crlf t) costs required = analyze round t costs required := by
  have hbraces : braceViolations (Source.strip (crlf t)) = braceViolations (Source.strip t) := by
    rw [Source.strip_crlf, braceViolations_crlf]
  have hboundary := boundaryViolation_congr required (Text.map_trim_rows_crlf t)
  rw [analyze, analyze, hbraces, hboundary]

end Style

namespace Submission

theorem codeStart_congr {rows rows' : List Text} (h : rows.map Text.trim = rows'.map Text.trim) :
    codeStart rows = codeStart rows' := by
  have hstart : ∀ rows : List Text, codeStart rows =
      (rows.map Text.trim).findIdx fun row => codeMarks.any fun mark => mark.isPrefixOf row := by
    intro rows
    rw [List.findIdx_map]
    rfl
  rw [hstart, hstart, h]

theorem identityOf_congr {rows rows' : List Text} (h : rows.map Text.trim = rows'.map Text.trim) :
    identityOf rows = identityOf rows' := by
  rw [identityOf, identityOf, h]

theorem cleanHeader_crlf {header : Text} (hreturn : '\r' ∉ header) :
    cleanHeader (crlf header) = cleanHeader header := by
  rw [cleanHeader, cleanHeader, Text.lines_crlf hreturn]

theorem normalize_crlf {t : Text} (hreturn : '\r' ∉ t) :
    normalize (crlf t) = { normalize t with code := crlf (normalize t).code } := by
  have hrows := Text.map_trim_rows_crlf t
  have hheader : '\r' ∉ ((Text.rows t).take (codeStart (Text.rows t))).flatten := by
    intro hmem
    obtain ⟨row, hrow, hc⟩ := List.mem_flatten.mp hmem
    apply hreturn
    rw [← Text.flatten_rows t]
    exact List.mem_flatten.mpr ⟨row, List.mem_of_mem_take hrow, hc⟩
  simp only [normalize, identityOf_congr hrows, codeStart_congr hrows]
  rw [Text.rows_crlf, ← List.map_take, ← List.map_drop, Text.crlf_flatten, Text.crlf_flatten,
    cleanHeader_crlf hheader]

/-- A text with carriage returns before its line feeds is graded as it is without them. -/
theorem graded_alike_crlf {t : Text} (hreturn : '\r' ∉ t) (round : Rounding) (costs : Style.Costs)
    (required : Text) :
    Source.strip (crlf t) = crlf (Source.strip t) ∧
    Style.analyze round (crlf t) costs required = Style.analyze round t costs required ∧
    (normalize (crlf t)).identity = (normalize t).identity ∧
    (normalize (crlf t)).header = (normalize t).header ∧
    (normalize (crlf t)).code = crlf (normalize t).code := by
  refine ⟨Source.strip_crlf t, Style.analyze_crlf round t costs required, ?_⟩
  rw [normalize_crlf hreturn]
  exact ⟨rfl, rfl, rfl⟩

namespace Sample

/-- A backslash stands before the end of a line in a literal and in a comment. -/
def folded : Text :=
  "/* Ada */\nimport a;\nclass A \x7b\nString s = \"\x7b \\\n\x7b\";\n// \x7d \\\n\x7d\n".toList

end Sample

theorem graded_alike_crlf_folded :
    '\r' ∉ Sample.folded ∧
    Source.strip (crlf Sample.folded) = crlf (Source.strip Sample.folded) ∧
    Style.analyze BinaryFormat.binary64.round (crlf Sample.folded) {} Style.defaultBoundary =
      Style.analyze BinaryFormat.binary64.round Sample.folded {} Style.defaultBoundary ∧
    (normalize (crlf Sample.folded)).identity = "Ada".toList ∧
    (normalize (crlf Sample.folded)).code = crlf (normalize Sample.folded).code := by
  have hreturn : '\r' ∉ Sample.folded := by decide
  obtain ⟨hstrip, hreport, hidentity, _, hcode⟩ :=
    graded_alike_crlf hreturn BinaryFormat.binary64.round {} Style.defaultBoundary
  refine ⟨hreturn, hstrip, hreport, ?_, hcode⟩
  rw [hidentity]
  rfl

end Submission

end LabGrader
