import LabGrader.Proofs.Submission.Cleaning
import LabGrader.Proofs.Text.Cut

/-!
# Renderings can be taken apart

A cleaned header has no blank line and no blank at either end, so the first empty line of a
rendering is the one behind the header, whatever the header looks like. What is left of it and what
is right of it can be told from the rendering alone.
-/

namespace LabGrader.Submission

/-- A header without a blank at either end and without a blank line between two others. -/
structure Solid (header : Text) : Prop where
  trimmed : Text.trim header = header
  noGap : ∀ line, '\n' ∉ line → Text.trim line = [] → ¬ '\n' :: line ++ ['\n'] <:+: header

theorem solid_cleanHeader (header : Text) : Solid (cleanHeader header) := by
  constructor
  case trimmed => exact Text.trim_trim _
  case noGap =>
    intro line hline hblank hinside
    have hjoined : '\n' :: line ++ ['\n'] <:+: Text.joinWith ['\n'] (keptLines header) :=
      hinside.trans (Text.trim_isInfix _)
    have hkept := Text.mem_of_infix_joinWith (fun _ => newline_notMem_of_mem_keptLines) hline hjoined
    exact trim_ne_nil_of_mem_keptLines hkept hblank

theorem solid_normalize (text : Text) : Solid (normalize text).header := solid_cleanHeader _

namespace Solid

variable {header row line : Text}

theorem not_isBlank_first (h : Solid header) {c : Char} {back : Text} (heq : header = c :: back) :
    Text.isBlank c = false :=
  Text.not_isBlank_of_trim_eq_cons (h.trimmed.trans heq)

theorem not_isBlank_last (h : Solid header) {c : Char} {front : Text}
    (heq : header = front ++ [c]) : Text.isBlank c = false :=
  Text.not_isBlank_of_trim_eq_concat (h.trimmed.trans heq)

theorem trim_row_ne_nil (h : Solid header) (hrow : row ∈ Text.rows header) :
    Text.trim row ≠ [] := by
  intro hblank
  have hall := Text.trim_eq_nil_iff.mp hblank
  obtain ⟨front, back, heq, hfront, hback⟩ := Text.exists_append_of_mem_rows hrow
  rcases hfront with rfl | ⟨before, rfl⟩
  · cases row with
    | nil => exact Text.nil_notMem_rows hrow
    | cons c rest =>
      have hstart : header = c :: (rest ++ back) := by simpa using heq
      have hfirst := h.not_isBlank_first hstart
      rw [hall c List.mem_cons_self] at hfirst
      cases hfirst
  · rcases hback with rfl | ⟨inner, rfl⟩
    · rcases List.eq_nil_or_concat' row with rfl | ⟨inner, c, rfl⟩
      · exact Text.nil_notMem_rows hrow
      · have hend : header = before ++ ['\n'] ++ inner ++ [c] := by simpa using heq
        have hlast := h.not_isBlank_last hend
        rw [hall c (by simp)] at hlast
        cases hlast
    · have hinner : '\n' ∉ inner := Text.newline_notMem_of_concat_mem_rows hrow
      have hempty : Text.trim inner = [] := by
        rwa [Text.trim_append rfl] at hblank
      exact h.noGap inner hinner hempty ⟨before, back, by rw [heq]; simp⟩

theorem trim_line_ne_nil (h : Solid header) (hline : line ∈ Text.lines header) :
    Text.trim line ≠ [] := by
  obtain ⟨row, hrow, rfl⟩ := List.mem_map.mp hline
  rw [Text.trim_chomp]
  exact h.trim_row_ne_nil hrow

theorem cut_emptyLine (h : Solid header) (rest : Text) :
    Text.cut ['\n', '\n'] (header ++ ['\n', '\n'] ++ rest) = some (header, rest) := by
  apply Text.cut_append (List.cons_ne_nil _ _)
  rintro ⟨front, back, heq⟩
  rcases List.eq_nil_or_concat' back with rfl | ⟨back, c, rfl⟩
  · have hend : header = front ++ ['\n'] := by
      have hlong : (front ++ ['\n']) ++ ['\n'] = header ++ ['\n'] := by simpa using heq
      exact (List.append_inj_left' hlong rfl).symm
    exact absurd (h.not_isBlank_last hend) (by decide)
  · have hinside : front ++ ['\n', '\n'] ++ back = header := by
      have hlong : (front ++ ['\n', '\n'] ++ back) ++ [c] = header ++ ['\n'] := by
        simpa using heq
      exact (List.append_inj' hlong rfl).1
    exact h.noGap [] List.not_mem_nil rfl ⟨front, back, hinside⟩

end Solid

def dropPrefix? (front t : Text) : Option Text :=
  if front.isPrefixOf t then some (t.drop front.length) else none

theorem dropPrefix?_append (front t : Text) : dropPrefix? front (front ++ t) = some t := by
  simp [dropPrefix?]

def headerLabel : Text := "**HEADER:**\n".toList

/-- The label of the code and the opening of its fence. -/
def codeLabel : Text := "**CODE:**\n\x60\x60\x60java\n".toList

def fence : Text := "\x60\x60\x60".toList

/-- Takes a rendering apart: the header runs to the first empty line, the code from the fence behind
its label to the one at the end. -/
def takeApart? (rendering : Text) : Option (Text × Text) := do
  let body ← dropPrefix? headerLabel rendering
  let (header, rest) ← Text.cut ['\n', '\n'] body
  let fenced ← dropPrefix? codeLabel rest
  let code ← Text.dropSuffix? fence fenced
  return (header, code)

theorem emptyLine_append_codeLabel :
    "\n\n**CODE:**\n\x60\x60\x60java\n".toList = ['\n', '\n'] ++ codeLabel := by
  decide +kernel

theorem Parts.render_eq (p : Parts) :
    p.render = headerLabel ++ (p.header ++ ['\n', '\n'] ++ (codeLabel ++ (p.code ++ fence))) := by
  change headerLabel ++ p.header ++ "\n\n**CODE:**\n\x60\x60\x60java\n".toList ++ p.code ++ fence = _
  rw [emptyLine_append_codeLabel]
  simp only [List.append_assoc]

theorem takeApart?_render {p : Parts} (h : Solid p.header) :
    takeApart? p.render = some (p.header, p.code) := by
  simp only [takeApart?, p.render_eq, dropPrefix?_append, h.cut_emptyLine, Text.dropSuffix?_append,
    Option.bind_eq_bind, Option.bind_some, Option.pure_def]

/-- The header of a submission has no blank at its ends and no blank line, so its rendering can be
taken apart into header and code, whatever the header imitates. Two submissions that are rendered
alike have the same header and the same code. -/
theorem rendering_decodable (text : Text) :
    Text.trim (normalize text).header = (normalize text).header ∧
    (∀ line ∈ Text.lines (normalize text).header, Text.trim line ≠ []) ∧
    takeApart? (normalize text).render = some ((normalize text).header, (normalize text).code) ∧
    ∀ other, (normalize other).render = (normalize text).render →
      (normalize other).header = (normalize text).header ∧
      (normalize other).code = (normalize text).code := by
  have hsolid := solid_normalize text
  have hapart : ∀ t, takeApart? (normalize t).render =
      some ((normalize t).header, (normalize t).code) := by
    intro t
    exact takeApart?_render (p := normalize t) (solid_normalize t)
  refine ⟨hsolid.trimmed, ?_, hapart text, ?_⟩
  · exact fun line => hsolid.trim_line_ne_nil
  · intro other hrender
    have hparts := hapart other
    rw [hrender, hapart text] at hparts
    exact Prod.mk.inj (Option.some.inj hparts.symm)

/-- Labels and fences in the header stay in the header. -/
example : takeApart? (normalize
    "// ***CODE:**\n// \x60\x60\x60java\n//\nimport a;\n\nclass B \x7b\x7d".toList).render =
      some ("**CODE:**\n\x60\x60\x60java".toList, "import a;\n\nclass B \x7b\x7d".toList) := by
  decide +kernel

end LabGrader.Submission
