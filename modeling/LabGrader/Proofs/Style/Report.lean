import LabGrader.Proofs.Source.Lexing
import LabGrader.Proofs.Text.Lines
import LabGrader.Style
import Mathlib.Logic.Relation

/-!
# What a style report says

Crowded lines are counted in the lexed text: lines are cut at every line feed, also inside of comments
and literals, and of each line only what stands outside of them is looked at. Prints are looked for in
the lines as they are; of all the prints the first and the last one decide.
-/

namespace LabGrader

namespace Source

def Segment.isPlain : Segment → Bool
  | .plain _ => true
  | _ => false

/-- The characters of a segment, each with whether it is code. -/
def Segment.lexed (s : Segment) : List (Char × Bool) := s.text.map fun c => (c, s.isPlain)

/-- The lines of a text, each character with whether it is code. -/
def lexedLines (segments : List Segment) : List (List (Char × Bool)) :=
  (segments.flatMap Segment.lexed).splitOnP fun x => x.1 = '\n'

/-- What stands in a line outside of comments and literals. -/
def codeOf (line : List (Char × Bool)) : Text := (line.filter Prod.snd).map Prod.fst

def shown (x : Char × Bool) : Char := if x.2 then x.1 else blanked x.1

variable {t : Text} {segments : List Segment}

theorem map_shown_lexed (s : Segment) : s.lexed.map shown = s.blanked := by
  cases s with
  | plain c => rfl
  | closed k body => exact List.map_map
  | unclosed k body => exact List.map_map

theorem strip_eq_map_shown (h : Lexes t segments) :
    strip t = (segments.flatMap Segment.lexed).map shown := by
  rw [strip_of_lexes h, List.map_flatMap]
  simp only [map_shown_lexed]

theorem splitOnP_map {α β : Type} (f : α → β) (p : β → Bool) (xs : List α) :
    (xs.map f).splitOnP p = (xs.splitOnP fun x => p (f x)).map (List.map f) := by
  induction xs with
  | nil => rfl
  | cons x xs ih =>
    rw [List.map_cons, List.splitOnP_cons_eq_if_modifyHead, List.splitOnP_cons_eq_if_modifyHead, ih]
    split
    · rfl
    · cases xs.splitOnP fun x => p (f x) <;> rfl

theorem shown_eq_newline_iff (x : Char × Bool) : shown x = '\n' ↔ x.1 = '\n' := by
  unfold shown
  split
  · rfl
  · exact (covers_blanked x.1).1

theorem splitOn_strip (h : Lexes t segments) :
    (strip t).splitOn '\n' = (lexedLines segments).map (List.map shown) := by
  have hbreak : (fun x => shown x == '\n') = fun x : Char × Bool => decide (x.1 = '\n') := by
    funext x
    rw [Bool.eq_iff_iff, beq_iff_eq, decide_eq_true_iff, shown_eq_newline_iff]
  rw [strip_eq_map_shown h, List.splitOn, splitOnP_map, hbreak]
  rfl

theorem isBlank_blanked (c : Char) : Text.isBlank (blanked c) = true := by
  unfold blanked
  split
  · rename_i hend
    rcases hend with rfl | rfl <;> rfl
  · rfl

theorem dense_map_shown (line : List (Char × Bool)) :
    Text.dense (line.map shown) = Text.dense (codeOf line) := by
  induction line with
  | nil => rfl
  | cons x line ih =>
    obtain ⟨c, plain⟩ := x
    cases plain with
    | true =>
      change Text.dense ([c] ++ line.map shown) = Text.dense ([c] ++ codeOf line)
      unfold Text.dense at ih ⊢
      rw [List.filter_append, ih, ← List.filter_append]
    | false =>
      change List.filter _ (blanked c :: line.map shown) = _
      rw [List.filter_cons_of_neg (by simp [isBlank_blanked])]
      exact ih

end Source

namespace Style

open Source (codeOf lexedLines shown)

section Crowded
variable {line : Text} {c : Char}

theorem hasBrace_iff : hasBrace line = true ↔ ∃ c ∈ Text.dense line, c = '{' ∨ c = '}' := by
  constructor
  · intro h
    obtain ⟨c, hc, hbrace⟩ := List.any_eq_true.mp h
    have hkind : c = '{' ∨ c = '}' := by simpa using hbrace
    refine ⟨c, Text.mem_dense_iff.mpr ⟨hc, ?_⟩, hkind⟩
    rcases hkind with rfl | rfl <;> rfl
  · rintro ⟨c, hc, hkind⟩
    refine List.any_eq_true.mpr ⟨c, (Text.mem_dense_iff.mp hc).1, ?_⟩
    rcases hkind with rfl | rfl <;> rfl

theorem isCrowded_iff :
    isCrowded line = true ↔
      (∃ c ∈ Text.dense line, c = '{' ∨ c = '}') ∧ 2 ≤ (Text.dense line).length := by
  have hsplit : isCrowded line = true ↔ hasBrace (Text.trim line) = true ∧
      Text.trim line ≠ ['{'] ∧ Text.trim line ≠ ['}'] := by
    simp [isCrowded, and_assoc]
  -- a line that is trimmed to a brace is one that has nothing else but blanks
  rw [hsplit, hasBrace_iff, Text.dense_trim, Ne, Ne, Text.trim_eq_singleton_iff rfl,
    Text.trim_eq_singleton_iff rfl]
  constructor
  · rintro ⟨⟨c, hc, hkind⟩, hopen, hclose⟩
    refine ⟨⟨c, hc, hkind⟩, ?_⟩
    by_contra hshort
    have hsingle : Text.dense line = [c] := by
      obtain ⟨d, hd⟩ := List.length_eq_one_iff.mp
        (show (Text.dense line).length = 1 by have := List.length_pos_of_mem hc; omega)
      rw [hd] at hc ⊢
      rw [List.mem_singleton.mp hc]
    rcases hkind with rfl | rfl
    · exact hopen hsingle
    · exact hclose hsingle
  · rintro ⟨hbrace, hlong⟩
    refine ⟨hbrace, ?_, ?_⟩
    · intro hsingle
      simp [hsingle] at hlong
    · intro hsingle
      simp [hsingle] at hlong

/-- There is a brace in the code of a line, and something else. -/
def Crowded (line : List (Char × Bool)) : Prop :=
  (∃ c ∈ codeOf line, c = '{' ∨ c = '}') ∧ 2 ≤ (Text.dense (codeOf line)).length

instance : DecidablePred Crowded := fun _ => inferInstanceAs (Decidable (_ ∧ _))

theorem isCrowded_map_shown (line : List (Char × Bool)) :
    isCrowded (line.map shown) = true ↔ Crowded line := by
  rw [isCrowded_iff, Source.dense_map_shown, ← hasBrace_iff, Crowded]
  simp [hasBrace]

theorem braceViolations_strip {t : Text} {segments : List Source.Segment}
    (h : Source.Lexes t segments) :
    braceViolations (Source.strip t) = (lexedLines segments).countP (decide <| Crowded ·) := by
  rw [braceViolations, Source.splitOn_strip h, List.countP_map]
  apply List.countP_congr
  intro line _
  rw [decide_eq_true_iff]
  exact isCrowded_map_shown line

end Crowded

section Prints
variable {lines lines' : List Text} {call required : Text}

def isPrint (line : Text) : Bool := printCall.isPrefixOf (Text.trim line)

theorem prints_eq (lines : List Text) : prints lines = (lines.filter isPrint).map Text.trim := by
  rw [prints, List.filter_map]
  rfl

theorem prints_rows (t : Text) : prints (Text.rows t) = prints (t.splitOn '\n') := by
  induction t using Text.line_induction with
  | last line hline =>
    rw [Text.rows_of_notMem hline, List.splitOn_eq_singleton hline]
    split
    · rename_i hempty
      rw [hempty]
      rfl
    · rfl
  | cons line rest hline ih =>
    rw [Text.rows_cons hline, List.splitOn_append_cons_self_of_not_mem hline]
    have htrim : Text.trim (line ++ ['\n']) = Text.trim line := Text.trim_append rfl
    unfold prints at ih ⊢
    rw [List.map_cons, List.map_cons, List.filter_cons, List.filter_cons, htrim, ih]

theorem prints_reverse (lines : List Text) : prints lines.reverse = (prints lines).reverse := by
  rw [prints_eq, prints_eq, List.filter_reverse, List.map_reverse]

theorem boundaryViolation_iff :
    boundaryViolation lines required = true ↔
      ∃ call, ((prints lines).head? = some call ∨ (prints lines).getLast? = some call) ∧
        call ≠ Text.trim required := by
  cases hprints : prints lines with
  | nil => simp [boundaryViolation, hprints]
  | cons first calls => simp [boundaryViolation, hprints, List.getLast?_cons]

theorem head?_prints_iff :
    (prints lines).head? = some call ↔
      ∃ front line back, lines = front ++ line :: back ∧ isPrint line = true ∧
        Text.trim line = call ∧ ∀ other ∈ front, isPrint other = false := by
  rw [prints_eq, List.head?_map, List.head?_filter, Option.map_eq_some_iff]
  constructor
  · rintro ⟨line, hfound, hcall⟩
    obtain ⟨hprint, front, back, hlines, hfront⟩ := List.find?_eq_some_iff_append.mp hfound
    exact ⟨front, line, back, hlines, hprint, hcall, by simpa using hfront⟩
  · rintro ⟨front, line, back, hlines, hprint, hcall, hfront⟩
    refine ⟨line, ?_, hcall⟩
    exact List.find?_eq_some_iff_append.mpr ⟨hprint, front, back, hlines, by simpa using hfront⟩

theorem getLast?_prints_iff :
    (prints lines).getLast? = some call ↔
      ∃ front line back, lines = front ++ line :: back ∧ isPrint line = true ∧
        Text.trim line = call ∧ ∀ other ∈ back, isPrint other = false := by
  -- the last print is the first one from the other end
  rw [List.getLast?_eq_head?_reverse, ← prints_reverse, head?_prints_iff]
  constructor
  · rintro ⟨front, line, back, hlines, hprint, hcall, hfront⟩
    refine ⟨back.reverse, line, front.reverse, ?_, hprint, hcall, by simpa using hfront⟩
    rw [← lines.reverse_reverse, hlines]
    simp
  · rintro ⟨front, line, back, hlines, hprint, hcall, hback⟩
    refine ⟨back.reverse, line, front.reverse, ?_, hprint, hcall, by simpa using hback⟩
    rw [hlines]
    simp

/-- The first or the last print is not the required one. -/
def Misframed (lines : List Text) (required : Text) : Prop :=
  ∃ front line back, lines = front ++ line :: back ∧ isPrint line = true ∧
    Text.trim line ≠ Text.trim required ∧
    ((∀ other ∈ front, isPrint other = false) ∨ ∀ other ∈ back, isPrint other = false)

theorem boundaryViolation_iff_misframed :
    boundaryViolation lines required = true ↔ Misframed lines required := by
  rw [boundaryViolation_iff]
  constructor
  · rintro ⟨call, hfirst | hlast, hne⟩
    · obtain ⟨front, line, back, hlines, hprint, rfl, hfront⟩ := head?_prints_iff.mp hfirst
      exact ⟨front, line, back, hlines, hprint, hne, Or.inl hfront⟩
    · obtain ⟨front, line, back, hlines, hprint, rfl, hback⟩ := getLast?_prints_iff.mp hlast
      exact ⟨front, line, back, hlines, hprint, hne, Or.inr hback⟩
  · rintro ⟨front, line, back, hlines, hprint, hne, hfront | hback⟩
    · exact ⟨_, Or.inl (head?_prints_iff.mpr ⟨front, line, back, hlines, hprint, rfl, hfront⟩), hne⟩
    · exact ⟨_, Or.inr (getLast?_prints_iff.mpr ⟨front, line, back, hlines, hprint, rfl, hback⟩), hne⟩

/-- A change of lines that keeps the first and the last print, or takes one for the other. -/
inductive Edited : List Text → List Text → Prop where
  | inserted {front back : List Text} {line : Text} :
      isPrint line = false → Edited (front ++ back) (front ++ line :: back)
  | between {front between between' back : List Text} {first last : Text} :
      isPrint first = true → isPrint last = true →
      Edited (front ++ first :: between ++ last :: back)
        (front ++ first :: between' ++ last :: back)
  | reversed (all : List Text) : Edited all all.reverse

theorem prints_append (lines lines' : List Text) :
    prints (lines ++ lines') = prints lines ++ prints lines' := by
  rw [prints_eq, prints_eq, prints_eq, List.filter_append, List.map_append]

theorem prints_cons_of_not_isPrint {line : Text} (h : isPrint line = false) :
    prints (line :: lines) = prints lines := by
  rw [prints_eq, prints_eq, List.filter_cons_of_neg (by simp [h])]

theorem prints_cons_of_isPrint {line : Text} (h : isPrint line = true) :
    prints (line :: lines) = Text.trim line :: prints lines := by
  rw [prints_eq, prints_eq, List.filter_cons_of_pos h, List.map_cons]

theorem boundaryViolation_of_edited (h : Edited lines lines') (required : Text) :
    boundaryViolation lines required = boundaryViolation lines' required := by
  rw [Bool.eq_iff_iff, boundaryViolation_iff, boundaryViolation_iff]
  -- the first and the last print stay, or change places
  cases h with
  | inserted hline => rw [prints_append, prints_append, prints_cons_of_not_isPrint hline]
  | between hfirst hlast =>
    simp only [prints_append, prints_cons_of_isPrint hfirst, prints_cons_of_isPrint hlast,
      List.head?_append, List.head?_cons, List.getLast?_append, List.getLast?_cons]
    simp only [Option.or_assoc, Option.some_or]
  | reversed =>
    simp only [prints_reverse, List.head?_reverse, List.getLast?_reverse, or_comm]

theorem boundaryViolation_of_eqvGen (h : Relation.EqvGen Edited lines lines') (required : Text) :
    boundaryViolation lines required = boundaryViolation lines' required := by
  induction h with
  | rel _ _ hedited => exact boundaryViolation_of_edited hedited required
  | refl => rfl
  | symm _ _ _ ih => exact ih.symm
  | trans _ _ _ _ _ ih ih' => exact ih.trans ih'

end Prints

/-- A report counts the lines that have a brace and something else in their code, says whether the
first or the last print is not the required one, and takes off for exactly that: the price of each
times the count, or the most that is taken off if that is less. Lines that are no print may come and
go, and so may whatever stands between two prints, and all lines may be turned around: that does not
change what it says of the prints. -/
theorem report_eq_definition (round : Rounding) (text : Text) (costs : Costs) (required : Text) :
    (∃ segments, Source.Lexes text segments) ∧
    (∀ segments, Source.Lexes text segments →
      (analyze round text costs required).braceViolations =
        (lexedLines segments).countP (decide <| Crowded ·)) ∧
    ((analyze round text costs required).boundaryViolation = true ↔
      Misframed (text.splitOn '\n') required) ∧
    (∀ text', Relation.EqvGen Edited (text.splitOn '\n') (text'.splitOn '\n') →
      (analyze round text' costs required).boundaryViolation =
        (analyze round text costs required).boundaryViolation) ∧
    (analyze round text costs required).braceDeduction =
      Number.least
        (Number.mul round (Number.ofNat round (analyze round text costs required).braceViolations)
          costs.braces.per)
        costs.braces.most ∧
    (analyze round text costs required).boundaryDeduction =
      Number.least
        (Number.mul round
          (Number.ofNat round
            (if (analyze round text costs required).boundaryViolation then 1 else 0))
          costs.boundary.per)
        costs.boundary.most := by
  have hrows : ∀ t : Text, (analyze round t costs required).boundaryViolation =
      boundaryViolation (t.splitOn '\n') required := by
    intro t
    change boundaryViolation (Text.rows t) required = _
    rw [boundaryViolation, boundaryViolation, prints_rows]
  refine ⟨Source.exists_lexes text, fun _ => braceViolations_strip, ?_, ?_, rfl, ?_⟩
  · rw [hrows, boundaryViolation_iff_misframed]
  · intro text' hedited
    rw [hrows, hrows, boundaryViolation_of_eqvGen hedited]
  · change costs.boundary.deduct round (boundaryViolation (Text.rows text) required).toNat =
      costs.boundary.deduct round (if boundaryViolation (Text.rows text) required then 1 else 0)
    cases boundaryViolation (Text.rows text) required <;> rfl

/-- Only the first line is crowded: a brace alone is not, and literals and comments do not count. -/
example :
    braceViolations (Source.strip "if (a) \x7b\n \x7d\n\"\x7b\" + b\n/* \x7d\n\x7b */ c".toList) = 1 := by
  decide

end Style

end LabGrader
