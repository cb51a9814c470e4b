import LabGrader.Assignment
import LabGrader.Proofs.Text.Lines

/-!
# Assignments as they are read

Reading loses blanks and nothing else. The title is what stands in the first line that is not blank,
and the description is the rest; both are freed of tabs and of blanks at their ends. An assignment in
this form is what its title and its description, with a line feed between them, are read as.
-/

namespace LabGrader

namespace Text

variable {t line rest front back : Text}

theorem dense_append (s t : Text) : dense (s ++ t) = dense s ++ dense t :=
  List.filter_append s t

theorem dense_eq_nil_iff : dense t = [] ↔ t.all isBlank = true := by
  simp [dense, List.filter_eq_nil_iff]

theorem notMem_trimStart {c : Char} (h : c ∉ t) : c ∉ trimStart t :=
  fun hmem => h ((List.dropWhile_sublist _).mem hmem)

theorem dense_trimStart (t : Text) : dense (trimStart t) = dense t :=
  filter_dropWhile (fun c hc => by simp [hc]) t

theorem dense_chomp (row : Text) : dense (chomp row) = dense row := by
  rw [← dense_trim, trim_chomp, dense_trim]

theorem all_isBlank_iff : t.all isBlank = true ↔ trim t = [] := by
  rw [trim_eq_nil_iff, List.all_eq_true]

theorem trimStart_append_of_all (h : front.all isBlank = true) (back : Text) :
    trimStart (front ++ back) = trimStart back :=
  List.dropWhile_append_of_pos (List.all_eq_true.mp h)

theorem trimStart_append_of_not_all (h : ¬ front.all isBlank = true) (back : Text) :
    trimStart (front ++ back) = trimStart front ++ back := by
  have hrest : front.dropWhile isBlank ≠ [] := by
    rw [ne_eq, List.dropWhile_eq_nil_iff, ← List.all_eq_true]
    exact h
  rw [trimStart, List.dropWhile_append, if_neg (by simpa using hrest)]
  rfl

/-- A text between two others that are trimmed stays as it is. -/
theorem trim_append_append (hfront : trim front = front) (hfrontNe : front ≠ [])
    (hback : trim back = back) (hbackNe : back ≠ []) (middle : Text) :
    trim (front ++ middle ++ back) = front ++ middle ++ back := by
  have hstart : trimStart (front ++ middle ++ back) = front ++ middle ++ back := by
    obtain ⟨c, tail, rfl⟩ := List.exists_cons_of_ne_nil hfrontNe
    exact List.dropWhile_cons_of_neg (by simp [not_isBlank_of_trim_eq_cons hfront])
  rw [trim, hstart]
  obtain ⟨init, d, rfl⟩ := (List.eq_nil_or_concat' back).resolve_left hbackNe
  have hlast : isBlank d = false := not_isBlank_of_trim_eq_concat hback
  rw [← List.append_assoc, trimEnd, List.reverse_concat, List.dropWhile_cons_of_neg (by simp [hlast]),
    List.reverse_cons, List.reverse_reverse]

def afterFirstLine (t : Text) : Text := (t.dropWhile (· ≠ '\n')).drop 1

theorem afterFirstLine_suffix (t : Text) : afterFirstLine t <:+ t :=
  (List.drop_suffix 1 _).trans (List.dropWhile_suffix _)

theorem afterFirstLine_of_notMem (h : '\n' ∉ line) : afterFirstLine line = [] := by
  rw [afterFirstLine, List.dropWhile_eq_nil_iff.mpr (ne_newline_of_mem h)]
  rfl

theorem afterFirstLine_cons (h : '\n' ∉ line) (rest : Text) :
    afterFirstLine (line ++ '\n' :: rest) = rest := by
  rw [afterFirstLine, List.dropWhile_append_of_pos (ne_newline_of_mem h)]
  simp

theorem newline_notMem_firstLine (t : Text) : '\n' ∉ firstLine t := by
  intro hmem
  simpa using List.mem_takeWhile_imp hmem

theorem dense_firstLine_append (t : Text) :
    dense (firstLine t) ++ dense (afterFirstLine t) = dense t := by
  induction t using line_induction with
  | last line hline =>
    rw [firstLine_of_notMem hline, afterFirstLine_of_notMem hline]
    exact List.append_nil _
  | cons line rest hline _ =>
    rw [firstLine_cons hline, afterFirstLine_cons hline, dense_append]
    rfl

theorem dense_firstLine_append_of_all (h : back.all isBlank = true) (t : Text) :
    dense (firstLine (t ++ back)) = dense (firstLine t) := by
  induction t using line_induction with
  | last line hline =>
    have hback : (firstLine back).all isBlank = true := by
      rw [List.all_eq_true] at h ⊢
      exact fun c hc => h c ((List.takeWhile_prefix _).mem hc)
    rw [firstLine_append hline, firstLine_of_notMem hline, dense_append,
      dense_eq_nil_iff.mpr hback, List.append_nil]
  | cons line rest hline _ =>
    rw [List.append_assoc, List.cons_append, firstLine_cons hline, firstLine_cons hline]

/-- Blanks at the end do not count for the first line, even if it ends among them. -/
theorem dense_firstLine_trim (t : Text) :
    dense (firstLine (trim t)) = dense (firstLine (trimStart t)) := by
  have hsplit : trim t ++ (trimStart t).rtakeWhile isBlank = trimStart t :=
    List.rdropWhile_append_rtakeWhile
  have hall : ((trimStart t).rtakeWhile isBlank).all isBlank = true :=
    List.all_eq_true.mpr fun c hc => List.mem_rtakeWhile_imp hc
  rw [← dense_firstLine_append_of_all hall (trim t), hsplit]

/-- The first line that is not blank. -/
def firstWritten? (t : Text) : Option Text := (lines t).find? fun line => !(trim line).isEmpty

theorem dense_ne_nil_of_firstWritten? (h : firstWritten? t = some line) : dense line ≠ [] := by
  have hwritten : (trim line).isEmpty = false := by simpa using List.find?_some h
  rw [ne_eq, dense_eq_nil_iff, all_isBlank_iff]
  exact List.isEmpty_eq_false_iff.mp hwritten

theorem firstWritten?_cons (hline : '\n' ∉ line) (rest : Text) :
    firstWritten? (line ++ '\n' :: rest) =
      if trim line = [] then firstWritten? rest else some (chomp (line ++ ['\n'])) := by
  have hchomp : trim (chomp (line ++ ['\n'])) = trim line := by rw [trim_chomp, trim_append rfl]
  rw [firstWritten?, lines, rows_cons hline, List.map_cons, List.find?_cons, hchomp]
  by_cases hblank : trim line = []
  · rw [if_pos hblank, hblank]
    rfl
  · rw [if_neg hblank, List.isEmpty_eq_false_iff.mpr hblank]
    rfl

theorem firstWritten?_of_notMem (hline : '\n' ∉ line) (h : trim line ≠ []) :
    firstWritten? line = some (chomp line) := by
  have hne : line ≠ [] := by
    rintro rfl
    exact h rfl
  rw [firstWritten?, lines, rows_of_notMem hline, if_neg hne]
  simp [trim_chomp, h]

/-- Up to blanks, the first line that is not blank stands at the front of a text that is trimmed. -/
theorem firstWritten?_eq (h : trim t ≠ []) :
    ∃ line, firstWritten? t = some line ∧ dense (firstLine (trimStart t)) = dense line := by
  induction t using line_induction with
  | last line hline =>
    refine ⟨chomp line, firstWritten?_of_notMem hline h, ?_⟩
    rw [firstLine_of_notMem (notMem_trimStart hline), dense_trimStart, dense_chomp]
  | cons line rest hline ih =>
    rw [firstWritten?_cons hline]
    by_cases hblank : trim line = []
    · -- the line is skipped together with its line feed
      have hall : (line ++ ['\n']).all isBlank = true := by
        rw [all_isBlank_iff, trim_append rfl, hblank]
      have hskip : trimStart (line ++ '\n' :: rest) = trimStart rest := by
        rw [← trimStart_append_of_all hall rest, List.append_assoc, List.singleton_append]
      rw [if_pos hblank, hskip]
      apply ih
      rwa [trim, ← hskip]
    · have hkeep : trimStart (line ++ '\n' :: rest) = trimStart line ++ '\n' :: rest :=
        trimStart_append_of_not_all (by rwa [all_isBlank_iff]) _
      refine ⟨_, if_neg hblank, ?_⟩
      rw [hkeep, firstLine_cons (notMem_trimStart hline), dense_trimStart, dense_chomp, dense_append]
      exact (List.append_nil _).symm

end Text

namespace Assignment

variable {t : Text} {a : Assignment}

theorem isBlank_spaceForTab (c : Char) : Text.isBlank (spaceForTab c) = Text.isBlank c := by
  unfold spaceForTab
  split
  · rename_i htab
    rw [htab]
    decide
  · rfl

theorem spaceForTab_of_ne {c : Char} (h : c ≠ '\t') : spaceForTab c = c := if_neg h

theorem spaceForTab_eq_newline_iff (c : Char) : spaceForTab c = '\n' ↔ c = '\n' := by
  unfold spaceForTab
  split
  · rename_i htab
    rw [htab]
    decide
  · rfl

theorem tab_notMem_map_spaceForTab (t : Text) : '\t' ∉ t.map spaceForTab := by
  intro hmem
  obtain ⟨c, -, hc⟩ := List.mem_map.mp hmem
  unfold spaceForTab at hc
  split at hc
  · exact absurd hc (by decide)
  · contradiction

theorem map_spaceForTab_eq_self (h : '\t' ∉ t) : t.map spaceForTab = t := by
  have hkeep : ∀ c ∈ t, spaceForTab c = id c :=
    fun c hc => spaceForTab_of_ne (ne_of_mem_of_not_mem hc h)
  rw [List.map_congr_left hkeep, List.map_id]

theorem dense_map_spaceForTab (t : Text) : Text.dense (t.map spaceForTab) = Text.dense t := by
  unfold Text.dense
  rw [List.filter_map]
  have hblank : (fun c => !Text.isBlank c) ∘ spaceForTab = fun c => !Text.isBlank c := by
    funext c
    simp [isBlank_spaceForTab]
  rw [hblank]
  refine map_spaceForTab_eq_self fun hmem => ?_
  -- a tab is blank
  exact absurd (List.mem_filter.mp hmem).2 (by decide)

theorem trim_map_spaceForTab_eq_nil_iff :
    Text.trim (t.map spaceForTab) = [] ↔ Text.trim t = [] := by
  simp only [Text.trim_eq_nil_iff, List.forall_mem_map, isBlank_spaceForTab]

theorem trimStart_map_spaceForTab (t : Text) :
    Text.trimStart (t.map spaceForTab) = (Text.trimStart t).map spaceForTab := by
  have hblank : Text.isBlank ∘ spaceForTab = Text.isBlank := funext isBlank_spaceForTab
  rw [Text.trimStart, List.dropWhile_map, hblank]
  rfl

theorem firstLine_map_spaceForTab (t : Text) :
    Text.firstLine (t.map spaceForTab) = (Text.firstLine t).map spaceForTab := by
  have hnewline : (fun c => decide (c ≠ '\n')) ∘ spaceForTab = fun c => decide (c ≠ '\n') := by
    funext c
    simp [spaceForTab_eq_newline_iff]
  rw [Text.firstLine, List.takeWhile_map, hnewline]
  rfl

theorem ofText?_eq_none_iff : ofText? t = none ↔ ∀ c ∈ t, Text.isBlank c = true := by
  rw [← Text.trim_eq_nil_iff, ← trim_map_spaceForTab_eq_nil_iff]
  by_cases hempty : Text.trim (t.map spaceForTab) = []
  · simp [ofText?, hempty]
  · simp [ofText?, hempty]

theorem ofText?_eq_some_iff :
    ofText? t = some a ↔ Text.trim t ≠ [] ∧
      Text.trim (Text.firstLine (Text.trim (t.map spaceForTab))) = a.name ∧
      Text.trim (Text.afterFirstLine (Text.trim (t.map spaceForTab))) = a.prompt := by
  rw [ne_eq, ← trim_map_spaceForTab_eq_nil_iff]
  unfold ofText?
  by_cases hempty : Text.trim (t.map spaceForTab) = []
  · simp [hempty]
  · simp only [List.isEmpty_iff, hempty, if_false, Option.some.injEq, not_false_eq_true, true_and]
    constructor
    · rintro rfl
      exact ⟨rfl, rfl⟩
    · rintro ⟨hname, hprompt⟩
      cases a
      subst hname hprompt
      rfl

/-- A title and a description that are read as they stand. -/
structure IsNormal (a : Assignment) : Prop where
  named : a.name ≠ []
  oneLine : '\n' ∉ a.name
  nameTrimmed : Text.trim a.name = a.name
  promptTrimmed : Text.trim a.prompt = a.prompt
  nameUntabbed : '\t' ∉ a.name
  promptUntabbed : '\t' ∉ a.prompt

theorem dense_of_ofText? (h : ofText? t = some a) :
    Text.dense (a.name ++ a.prompt) = Text.dense t := by
  obtain ⟨-, hname, hprompt⟩ := ofText?_eq_some_iff.mp h
  rw [Text.dense_append, ← hname, ← hprompt, Text.dense_trim, Text.dense_trim,
    Text.dense_firstLine_append, Text.dense_trim, dense_map_spaceForTab]

theorem exists_firstWritten?_of_ofText? (h : ofText? t = some a) :
    ∃ line, Text.firstWritten? t = some line ∧ Text.dense a.name = Text.dense line := by
  obtain ⟨hne, hname, -⟩ := ofText?_eq_some_iff.mp h
  obtain ⟨line, hline, hdense⟩ := Text.firstWritten?_eq hne
  refine ⟨line, hline, ?_⟩
  rw [← hname, Text.dense_trim, Text.dense_firstLine_trim, trimStart_map_spaceForTab,
    firstLine_map_spaceForTab, dense_map_spaceForTab, hdense]

theorem isNormal_of_ofText? (h : ofText? t = some a) : a.IsNormal := by
  obtain ⟨line, hline, hdense⟩ := exists_firstWritten?_of_ofText? h
  obtain ⟨-, hname, hprompt⟩ := ofText?_eq_some_iff.mp h
  have htab : '\t' ∉ Text.trim (t.map spaceForTab) :=
    fun hmem => tab_notMem_map_spaceForTab t (Text.mem_of_mem_trim hmem)
  refine { named := ?_, oneLine := ?_, nameTrimmed := ?_, promptTrimmed := ?_,
           nameUntabbed := ?_, promptUntabbed := ?_ }
  · intro hempty
    rw [hempty] at hdense
    exact Text.dense_ne_nil_of_firstWritten? hline hdense.symm
  · rw [← hname]
    exact fun hmem => Text.newline_notMem_firstLine _ (Text.mem_of_mem_trim hmem)
  · rw [← hname, Text.trim_trim]
  · rw [← hprompt, Text.trim_trim]
  · rw [← hname]
    exact fun hmem => htab ((List.takeWhile_prefix _).mem (Text.mem_of_mem_trim hmem))
  · rw [← hprompt]
    exact fun hmem => htab (Text.afterFirstLine_suffix _ |>.mem (Text.mem_of_mem_trim hmem))

theorem ofText?_of_isNormal (h : a.IsNormal) : ofText? (a.name ++ '\n' :: a.prompt) = some a := by
  have htab : '\t' ∉ a.name ++ '\n' :: a.prompt := by
    simp [h.nameUntabbed, h.promptUntabbed]
  rw [ofText?_eq_some_iff, map_spaceForTab_eq_self htab]
  by_cases hprompt : a.prompt = []
  · have hwhole : Text.trim (a.name ++ '\n' :: a.prompt) = a.name := by
      rw [hprompt, Text.trim_append rfl, h.nameTrimmed]
    rw [hwhole, Text.firstLine_of_notMem h.oneLine, Text.afterFirstLine_of_notMem h.oneLine, hprompt]
    exact ⟨h.named, h.nameTrimmed, rfl⟩
  · have hwhole : Text.trim (a.name ++ '\n' :: a.prompt) = a.name ++ '\n' :: a.prompt := by
      have hmiddle := Text.trim_append_append h.nameTrimmed h.named h.promptTrimmed hprompt ['\n']
      rwa [List.append_assoc, List.singleton_append] at hmiddle
    rw [hwhole, Text.firstLine_cons h.oneLine, Text.afterFirstLine_cons h.oneLine]
    exact ⟨List.append_ne_nil_of_left_ne_nil h.named _, h.nameTrimmed, h.promptTrimmed⟩

/-- A blank text is not read. Any other is read into a normal form with the same characters up to
blanks, with those of the first line that is not blank in the title; the form is read as it stands. -/
theorem read_normal_form (t : Text) :
    (ofText? t = none ↔ ∀ c ∈ t, Text.isBlank c = true) ∧
      ∀ a, ofText? t = some a →
        a.IsNormal ∧ Text.dense (a.name ++ a.prompt) = Text.dense t ∧
          (∃ line, Text.firstWritten? t = some line ∧ Text.dense a.name = Text.dense line) ∧
          ofText? (a.name ++ '\n' :: a.prompt) = some a := by
  refine ⟨ofText?_eq_none_iff, fun a h => ?_⟩
  have hnormal := isNormal_of_ofText? h
  exact ⟨hnormal, dense_of_ofText? h, exists_firstWritten?_of_ofText? h,
    ofText?_of_isNormal hnormal⟩

/-- The form of a text with blank lines, tabs and other blanks at the ends of its lines. -/
theorem read_normal_form_crooked :
    (Assignment.mk "Lab 3: Loops".toList "Write.".toList).IsNormal ∧
      Text.dense ("Lab 3: Loops".toList ++ "Write.".toList) =
        Text.dense "\r\n  Lab 3:\tLoops \n\t\n Write.\u0085\n".toList := by
  have hread : ofText? "\r\n  Lab 3:\tLoops \n\t\n Write.\u0085\n".toList =
      some ⟨"Lab 3: Loops".toList, "Write.".toList⟩ := by decide
  obtain ⟨hnormal, hdense, -⟩ := (read_normal_form _).2 _ hread
  exact ⟨hnormal, hdense⟩

end Assignment

end LabGrader
