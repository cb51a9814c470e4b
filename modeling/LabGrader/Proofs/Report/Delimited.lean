import LabGrader.Proofs.Response.Fields
import LabGrader.Proofs.Text.Lines
import LabGrader.Report.Format
import LabGrader.Submission

/-!
# Delimited reports can be read back

A reader of delimited rows goes through a report character by character. Whatever a field holds, the
reader comes to its end with the field as it was before it was quoted, so it reads every report as
the rows that were written. A row takes one line unless a field holds a line feed, which the texts
of a graded submission do not.
-/

namespace LabGrader.Report

/-- Where a reader stands in a field. -/
inductive Place where
  | start
  | bare
  | quoted
  /-- after a quote in a quoted field, which ends the field or stands for a quote with the next -/
  | closing
deriving DecidableEq

/-- What has been read: whole rows, whole fields of the row after them, and a part of a field. -/
structure Reading where
  rows : List (List Text) := []
  fields : List Text := []
  field : Text := []
  place : Place := .start
deriving DecidableEq

namespace Reading

def endField (s : Reading) : Reading := { rows := s.rows, fields := s.fields ++ [s.field] }

def endRow (s : Reading) : Reading := { rows := s.rows ++ [s.fields ++ [s.field]] }

def add (s : Reading) (c : Char) (place : Place) : Reading :=
  { s with field := s.field ++ [c], place }

/-- A character outside of quotes. -/
def bare (d : Char) (s : Reading) (c : Char) : Reading :=
  if c = d then s.endField else if c = '\n' then s.endRow else s.add c .bare

/-- Reads one character. After a quoted field only a delimiter or the end of the row can follow. -/
def step? (d : Char) (s : Reading) (c : Char) : Option Reading :=
  match s.place with
  | .start => if c = '"' then some { s with place := .quoted } else some (s.bare d c)
  | .bare => some (s.bare d c)
  | .quoted => if c = '"' then some { s with place := .closing } else some (s.add c .quoted)
  | .closing =>
    if c = '"' then some (s.add c .quoted)
    else if c = d ∨ c = '\n' then some (s.bare d c)
    else none

def run? (d : Char) (s : Reading) (t : Text) : Option Reading := t.foldlM (step? d) s

end Reading

/-- The rows of a text, each ended by a line feed, with their fields free of quotes. -/
def rows? (d : Char) (t : Text) : Option (List (List Text)) :=
  match Reading.run? d {} t with
  | none => none
  | some s => if s = { rows := s.rows } then some s.rows else none

namespace Reading

section Steps
variable {d : Char} {s s' : Reading} {t : Text}

theorem run?_nil : run? d s [] = some s := rfl

theorem run?_cons (c : Char) : run? d s (c :: t) = (step? d s c).bind fun s' => run? d s' t :=
  List.foldlM_cons

theorem run?_append (back : Text) :
    run? d s (t ++ back) = (run? d s t).bind fun s' => run? d s' back :=
  List.foldlM_append

theorem run?_bare (ht : ∀ c ∈ t, mustQuote d c = false) (hs : s.place = .start ∨ s.place = .bare) :
    ∃ place, place ≠ .quoted ∧ run? d s t = some { s with field := s.field ++ t, place } := by
  induction t generalizing s with
  | nil =>
    refine ⟨s.place, ?_, ?_⟩
    · rcases hs with hs | hs <;> simp [hs]
    · simp [run?_nil]
  | cons c t ih =>
    have hc := ht c List.mem_cons_self
    simp only [mustQuote, Bool.or_eq_false_iff, decide_eq_false_iff_not] at hc
    obtain ⟨⟨⟨hdelimiter, hquote⟩, hnewline⟩, -⟩ := hc
    have hstep : step? d s c = some (s.add c .bare) := by
      rcases hs with hs | hs <;> simp [step?, hs, bare, hdelimiter, hquote, hnewline]
    obtain ⟨place, hplace, hrun⟩ :=
      ih (s := s.add c .bare) (fun c hc => ht c (List.mem_cons_of_mem _ hc)) (Or.inr rfl)
    refine ⟨place, hplace, ?_⟩
    rw [run?_cons, hstep, Option.bind_some, hrun]
    simp [add]

/-- Inside of quotes everything is kept, and two quotes are one. -/
theorem run?_quoted (hs : s.place = .quoted) :
    run? d s (t.flatMap fun c => if c = '"' then ['"', '"'] else [c]) =
      some { s with field := s.field ++ t } := by
  induction t generalizing s with
  | nil => simp [run?_nil]
  | cons c t ih =>
    have hchar : run? d s (if c = '"' then ['"', '"'] else [c]) = some (s.add c .quoted) := by
      by_cases hc : c = '"'
      · subst c
        simp [run?_cons, run?_nil, step?, hs, add]
      · simp [run?_cons, run?_nil, step?, hs, hc]
    rw [List.flatMap_cons, run?_append, hchar, Option.bind_some, ih (s := s.add c .quoted) rfl]
    simp [add, hs]

theorem run?_quoteField (hs : s.place = .start) (hfield : s.field = []) :
    ∃ place, place ≠ .quoted ∧
      run? d s (quoteField d t) = some { s with field := t, place } := by
  unfold quoteField
  split
  · refine ⟨.closing, by decide, ?_⟩
    have hinside := run?_quoted (d := d) (t := t) (s := { s with place := .quoted }) rfl
    rw [List.cons_append, run?_cons, step?, hs]
    simp only [if_true, Option.bind_some]
    rw [run?_append, hinside]
    simp [run?_cons, run?_nil, step?, hfield]
  · rename_i hplain
    obtain ⟨place, hplace, hrun⟩ := run?_bare (d := d) (t := t) (s := s) (by simpa using hplain)
      (Or.inl hs)
    exact ⟨place, hplace, by rw [hrun, hfield, List.nil_append]⟩

theorem step?_end {c : Char} (hplace : s.place ≠ .quoted) (hc : c = d ∨ c = '\n')
    (hquote : c ≠ '"') : step? d s c = some (s.bare d c) := by
  unfold step?
  cases hs : s.place with
  | start => simp [hquote]
  | bare => rfl
  | quoted => exact absurd hs hplace
  | closing => simp [hquote, hc]

theorem run?_row (hd : d ≠ '"' ∧ d ≠ '\n') (hs : s.place = .start) (hfield : s.field = [])
    {fields : List Text} (hne : fields ≠ []) :
    run? d s (Text.joinWith [d] (fields.map (quoteField d)) ++ ['\n']) =
      some { rows := s.rows ++ [s.fields ++ fields] } := by
  induction fields generalizing s with
  | nil => exact absurd rfl hne
  | cons field fields ih =>
    obtain ⟨place, hplace, hrun⟩ := run?_quoteField (d := d) (t := field) hs hfield
    cases fields with
    | nil =>
      have hjoin : Text.joinWith [d] ([field].map (quoteField d)) = quoteField d field := by
        simp [Text.joinWith]
      rw [hjoin, run?_append, hrun, Option.bind_some, run?_cons,
        step?_end hplace (Or.inr rfl) (by decide), bare, if_neg (Ne.symm hd.2)]
      rfl
    | cons next fields =>
      have hjoin : Text.joinWith [d] ((field :: next :: fields).map (quoteField d)) ++ ['\n'] =
          quoteField d field ++
            d :: (Text.joinWith [d] ((next :: fields).map (quoteField d)) ++ ['\n']) := by
        simp [Text.joinWith, List.intercalate_cons_cons]
      have hnext := ih (s := { rows := s.rows, fields := s.fields ++ [field] }) rfl rfl
        (List.cons_ne_nil _ _)
      rw [hjoin, run?_append, hrun, Option.bind_some, run?_cons,
        step?_end hplace (Or.inl rfl) hd.1, bare, if_pos rfl]
      rw [Option.bind_some, endField, hnext, List.append_assoc]
      rfl

/-- Row by row, a text of quoted fields is read as the fields. -/
theorem run?_rows (hd : d ≠ '"' ∧ d ≠ '\n') {rows : List (List Text)} (hrows : [] ∉ rows)
    (before : List (List Text)) :
    run? d { rows := before } (rows.flatMap fun fields =>
        Text.joinWith [d] (fields.map (quoteField d)) ++ ['\n']) =
      some { rows := before ++ rows } := by
  induction rows generalizing before with
  | nil => simp [run?_nil]
  | cons fields rows ih =>
    rw [List.mem_cons, not_or] at hrows
    have hrow := run?_row (s := { rows := before }) hd rfl rfl (Ne.symm hrows.1)
    rw [List.flatMap_cons, run?_append, hrow, Option.bind_some, List.nil_append, ih hrows.2]
    simp

end Steps

end Reading

section Scores

/-- The characters that scores are written with. -/
def isScoreCharacter (c : Char) : Bool := c.isAlphanum || c = '.' || c = '-'

theorem isScoreCharacter_of_mem_ofNat {n : Nat} {c : Char} (h : c ∈ Text.ofNat n) :
    isScoreCharacter c = true := by
  have hdigit : c.isDigit = true := Nat.isDigit_of_mem_toDigits (by decide) (by decide) h
  simp [isScoreCharacter, Char.isAlphanum, hdigit]

theorem isScoreCharacter_of_mem_positional {digits : Text}
    (hdigits : ∀ c ∈ digits, isScoreCharacter c = true) (point : Int) :
    ∀ c ∈ Number.Style.plain.positional digits point, isScoreCharacter c = true := by
  have hzeros : ∀ n, ∀ c ∈ Number.Style.zeros n, isScoreCharacter c = true := by
    intro n c hc
    rw [List.eq_of_mem_replicate hc]
    rfl
  intro c hc
  unfold Number.Style.positional at hc
  split at hc
  · simp only [List.cons_append, List.mem_cons, List.mem_append] at hc
    rcases hc with rfl | rfl | hc | hc
    · rfl
    · rfl
    · exact hzeros _ c hc
    · exact hdigits c hc
  · split at hc
    · simp only [List.mem_append] at hc
      rcases hc with (hc | hc) | hc
      · exact hdigits c hc
      · exact hzeros _ c hc
      · cases hc
    · simp only [List.mem_append, List.mem_cons] at hc
      rcases hc with hc | rfl | hc
      · exact hdigits c (List.mem_of_mem_take hc)
      · rfl
      · exact hdigits c (List.mem_of_mem_drop hc)

theorem isScoreCharacter_of_mem_magnitude (q : Rat) :
    ∀ c ∈ Number.Style.plain.magnitude .binary64 q, isScoreCharacter c = true := by
  intro c hc
  unfold Number.Style.magnitude at hc
  split at hc
  · rw [List.mem_singleton.mp hc]
    rfl
  · exact isScoreCharacter_of_mem_positional (fun c hc => isScoreCharacter_of_mem_ofNat hc) _ c hc

theorem isScoreCharacter_of_mem_scoreText (x : Number) :
    ∀ c ∈ scoreText x, isScoreCharacter c = true := by
  have hsigned : ∀ (negative : Bool) (t : Text), (∀ c ∈ t, isScoreCharacter c = true) →
      ∀ c ∈ Number.signed negative t, isScoreCharacter c = true := by
    intro negative t ht c hc
    cases negative with
    | false => exact ht c hc
    | true =>
      rcases List.mem_cons.mp hc with rfl | hc
      · rfl
      · exact ht c hc
  cases x with
  | nan => exact List.all_eq_true.mp rfl
  | infinite negative => exact hsigned negative _ (List.all_eq_true.mp rfl)
  | negativeZero => exact hsigned true _ (isScoreCharacter_of_mem_magnitude 0)
  | finite q => exact hsigned _ _ (isScoreCharacter_of_mem_magnitude q.abs)

theorem quoteField_eq_self {d : Char} (hd : isScoreCharacter d = false) {t : Text}
    (ht : ∀ c ∈ t, isScoreCharacter c = true) : quoteField d t = t := by
  unfold quoteField
  rw [if_neg]
  intro hany
  obtain ⟨c, hc, hquote⟩ := List.any_eq_true.mp hany
  have hscore := ht c hc
  simp only [mustQuote, Bool.or_eq_true, decide_eq_true_eq] at hquote
  rcases hquote with ((rfl | rfl) | rfl) | rfl
  · rw [hd] at hscore
    cases hscore
  · cases hscore
  · cases hscore
  · cases hscore

end Scores

/-- The texts of a row. -/
def cells (r : Record) : List Text := [r.identity, scoreText r.score, r.confidence, r.comments]

section Rows
variable {d : Char} (hd : isScoreCharacter d = false)
include hd

theorem row_eq (r : Record) : row d r = (cells r).map (quoteField d) := by
  simp [row, cells, quoteField_eq_self hd (isScoreCharacter_of_mem_scoreText r.score)]

theorem header_eq : header = header.map (quoteField d) := by
  have hplain : (header.all fun t => t.all isScoreCharacter) = true := rfl
  have hself : header.map (quoteField d) = header.map id := by
    apply List.map_congr_left
    intro t ht
    exact quoteField_eq_self hd (List.all_eq_true.mp (List.all_eq_true.mp hplain t ht))
  rw [hself, List.map_id]

theorem header_cons_rows (records : List Record) :
    header :: records.map (row d) =
      (header :: records.map cells).map fun fields => fields.map (quoteField d) := by
  rw [List.map_cons, ← header_eq hd, List.map_map]
  congr 1
  exact List.map_congr_left fun r _ => row_eq hd r

theorem rows?_delimited (hreader : d ≠ '"' ∧ d ≠ '\n') (records : List Record) :
    rows? d (delimited d records) = some (header :: records.map cells) := by
  have hne : [] ∉ header :: records.map cells := by simp [header, cells]
  have hrun := Reading.run?_rows hreader hne []
  rw [List.nil_append] at hrun
  have hreport : delimited d records = (header :: records.map cells).flatMap fun fields =>
      Text.joinWith [d] (fields.map (quoteField d)) ++ ['\n'] := by
    rw [delimited, header_cons_rows hd, List.flatMap_map]
  have hread : Reading.run? d {} (delimited d records) =
      some { rows := header :: records.map cells } := by rw [hreport, ← hrun]
  simp only [rows?, hread, if_true]

end Rows

section Lines
variable {d c : Char} {t : Text}

theorem mem_of_mem_quoteField (h : c ∈ quoteField d t) : c = '"' ∨ c ∈ t := by
  unfold quoteField at h
  split at h
  · rw [List.cons_append, List.mem_cons, List.mem_append, List.mem_singleton] at h
    rcases h with hopening | hinside | hclosing
    · exact Or.inl hopening
    · obtain ⟨x, hx, hc⟩ := List.mem_flatMap.mp hinside
      split at hc
      · exact Or.inl (by simpa using hc)
      · exact Or.inr (List.mem_singleton.mp hc ▸ hx)
    · exact Or.inl hclosing
  · exact Or.inr h

theorem mem_of_mem_joinWith {fields : List Text} (h : c ∈ Text.joinWith [d] fields) :
    c = d ∨ ∃ t ∈ fields, c ∈ t := by
  unfold Text.joinWith at h
  induction fields with
  | nil => cases h
  | cons field fields ih =>
    cases fields with
    | nil =>
      rw [List.intercalate_singleton] at h
      exact Or.inr ⟨field, List.mem_cons_self, h⟩
    | cons next fields =>
      rw [List.intercalate_cons_cons, List.mem_append, List.mem_append] at h
      rcases h with (hfield | hdelimiter) | hrest
      · exact Or.inr ⟨field, List.mem_cons_self, hfield⟩
      · exact Or.inl (List.mem_singleton.mp hdelimiter)
      · rcases ih hrest with hdelimiter | ⟨t, ht, hc⟩
        · exact Or.inl hdelimiter
        · exact Or.inr ⟨t, List.mem_cons_of_mem _ ht, hc⟩

theorem newline_notMem_identityOf (t : Text) : '\n' ∉ Submission.identityOf (Text.rows t) := by
  unfold Submission.identityOf
  cases hfound : ((Text.rows t).map Text.trim).find? fun row => !row.isEmpty with
  | none => exact List.not_mem_nil
  | some line =>
    obtain ⟨row, hrow, rfl⟩ := List.mem_map.mp (List.mem_of_find?_eq_some hfound)
    intro hmem
    exact Text.newline_notMem_trim_row hrow (List.mem_filter.mp (Text.mem_of_mem_trim hmem)).1

/-- The texts of the record are those of a submission and of an answer about it. -/
def Graded (r : Record) : Prop :=
  ∃ text answer, r.identity = Submission.identityOf (Text.rows text) ∧
    r.confidence = (Response.parse answer).confidenceText ∧
    r.comments = (Response.parse answer).commentsText

theorem graded_ofParts (round : Rounding) (text answer : Text) (style : Style.Report)
    (path : Option Path) :
    Graded (.ofParts round (Submission.normalize text).identity (.parse answer) style path) :=
  ⟨text, answer, rfl, rfl, rfl⟩

theorem newline_notMem_cells {r : Record} (h : Graded r) : ∀ t ∈ cells r, '\n' ∉ t := by
  obtain ⟨text, answer, hidentity, hconfidence, hcomments⟩ := h
  have hfound : ∀ f : Response.Field,
      '\n' ∉ (f.find (Response.clean answer)).toOption.getD [] := by
    intro f hmem
    cases Response.isMarkup_of_mem_found hmem
  have hscore : '\n' ∉ scoreText r.score := by
    intro hmem
    cases isScoreCharacter_of_mem_scoreText r.score _ hmem
  intro t ht
  simp only [cells, List.mem_cons, List.not_mem_nil, or_false] at ht
  rcases ht with rfl | rfl | rfl | rfl
  · exact hidentity ▸ newline_notMem_identityOf text
  · exact hscore
  · exact hconfidence ▸ hfound .confidence
  · exact hcomments ▸ hfound .comments

theorem rows_delimited (hd : isScoreCharacter d = false) (hnewline : d ≠ '\n')
    {records : List Record} (h : ∀ r ∈ records, Graded r) :
    Text.rows (delimited d records) =
      (header :: records.map (row d)).map fun fields => Text.joinWith [d] fields ++ ['\n'] := by
  have hcells : ∀ fields ∈ header :: records.map cells, ∀ t ∈ fields, '\n' ∉ t := by
    intro fields hfields
    rcases List.mem_cons.mp hfields with rfl | hfields
    · decide
    · obtain ⟨r, hr, rfl⟩ := List.mem_map.mp hfields
      exact newline_notMem_cells (h r hr)
  have hlines : ∀ line ∈ (header :: records.map (row d)).map (Text.joinWith [d]),
      '\n' ∉ line := by
    rw [header_cons_rows hd, List.map_map]
    intro line hline hmem
    obtain ⟨fields, hfields, rfl⟩ := List.mem_map.mp hline
    rcases mem_of_mem_joinWith hmem with hdelimiter | ⟨t, ht, hmem⟩
    · exact hnewline hdelimiter.symm
    · obtain ⟨field, hfield, rfl⟩ := List.mem_map.mp ht
      rcases mem_of_mem_quoteField hmem with hquote | hmem
      · cases hquote
      · exact hcells fields hfields field hfield hmem
  have hrows := Text.rows_flatMap hlines
  rwa [List.flatMap_map, List.map_map] at hrows

end Lines

/-- A report with commas or tabs is read as what was written, so reports of different rows differ.
If every record is of a graded submission, each takes one line after that of the header. -/
theorem delimited_decodable {d : Char} (hd : d = ',' ∨ d = '\t') (records : List Record) :
    rows? d (delimited d records) =
      some (["Name".toList, "Score".toList, "Confidence".toList, "Comments".toList] ::
        records.map cells) ∧
    (∀ others, delimited d others = delimited d records →
      others.map cells = records.map cells) ∧
    ((∀ r ∈ records, Graded r) →
      Text.rows (delimited d records) =
        ((header :: records.map (row d)).map fun fields =>
          Text.joinWith [d] fields ++ ['\n']) ∧
      (Text.rows (delimited d records)).length = records.length + 1) := by
  have hscore : isScoreCharacter d = false := by
    rcases hd with rfl | rfl
    · rfl
    · rfl
  have hreader : d ≠ '"' ∧ d ≠ '\n' := by
    rcases hd with rfl | rfl
    · decide
    · decide
  have hdecoded := rows?_delimited hscore hreader
  refine ⟨hdecoded records, ?_, ?_⟩
  · intro others heq
    have hrows := (hdecoded others).symm.trans ((congrArg (rows? d) heq).trans (hdecoded records))
    exact (List.cons.inj (Option.some.inj hrows)).2
  · intro hgraded
    have hlines := rows_delimited hscore hreader.2 hgraded
    refine ⟨hlines, ?_⟩
    rw [hlines, List.length_map, List.length_cons, List.length_map]

namespace Sample

/-- Fields that hold delimiters, quotes and ends of lines, and fields that hold nothing. -/
def awkward : List Record :=
  [⟨"Doe, \"J\"\r\n".toList, .finite 95, [], "\",\n\"".toList, none, none, none⟩,
    ⟨[], .negativeZero, "\"\"".toList, "\t".toList, none, none, none⟩]

/-- The record of an answer with line feeds about a submission with line feeds. -/
def graded : Record :=
  .ofParts Number.exactly
    (Submission.normalize "\n// Jane Doe, 3b\r\nimport a;\n".toList).identity
    (.parse "SCORE: 9\nCOMMENTS: \"so,\n so\"\nCONFIDENCE: 4\n".toList) {} none

end Sample

theorem delimited_decodable_awkward :
    rows? ',' (delimited ',' Sample.awkward) =
      some [header, ["Doe, \"J\"\r\n".toList, "95".toList, [], "\",\n\"".toList],
        [[], "-0".toList, "\"\"".toList, "\t".toList]] ∧
    (∀ r ∈ [Sample.graded], Graded r) ∧
    Text.rows (delimited '\t' [Sample.graded]) =
      ["Name\tScore\tConfidence\tComments\n".toList,
        "Jane Doe 3b\t9\t4\t\"\"\"so,so\"\"\"\n".toList] := by
  have hgraded : ∀ r ∈ [Sample.graded], Graded r := by
    intro r hr
    rw [List.mem_singleton.mp hr]
    exact graded_ofParts _ _ _ _ _
  have hdecoded := (delimited_decodable (Or.inl rfl) Sample.awkward).1
  have hlines := ((delimited_decodable (Or.inr rfl) [Sample.graded]).2.2 hgraded).1
  refine ⟨hdecoded.trans ?_, hgraded, hlines.trans ?_⟩
  · decide +kernel
  · decide +kernel

end LabGrader.Report
