import LabGrader.Proofs.Text.Lines
import LabGrader.Submission

/-!
# What cleaning takes out

Cleaning a header only takes characters out, and only slashes, stars and blanks. What is left has no
blank line.
-/

namespace LabGrader.Submission

section Cleaning
variable {line header : Text}

theorem dropBlank_sublist (t : Text) : (Text.dropBlank t).Sublist t := by
  cases t with
  | nil => exact .refl _
  | cons c rest =>
    simp only [Text.dropBlank]
    split
    · exact List.sublist_cons_self c rest
    · exact .refl _

theorem erasePair_sublist (a b : Char) (t : Text) : (Text.erasePair a b t).Sublist t := by
  fun_induction Text.erasePair a b t with
  | case1 x y rest _ ih =>
    exact (ih.trans (List.sublist_cons_self y rest)).trans (List.sublist_cons_self x (y :: rest))
  | case2 x y rest _ ih => exact ih.cons_cons x
  | case3 t _ => exact .refl _

theorem dropSlashes_sublist (line : Text) : (dropSlashes line).Sublist line := by
  simp only [dropSlashes]
  split
  · exact ((dropBlank_sublist _).trans (List.dropWhile_sublist _)).trans (List.dropWhile_sublist _)
  · exact .refl _

theorem dropStar_sublist (line : Text) : (dropStar line).Sublist line := by
  unfold dropStar
  split
  · rename_i rest hrest
    have htrimmed : ('*' :: rest).Sublist line := hrest ▸ List.dropWhile_sublist _
    exact ((dropBlank_sublist rest).trans (List.sublist_cons_self '*' rest)).trans htrimmed
  · exact .refl _

theorem cleanLine_sublist (line : Text) : (cleanLine line).Sublist line :=
  (((dropStar_sublist _).trans (erasePair_sublist '*' '/' _)).trans
    (erasePair_sublist '/' '*' _)).trans (dropSlashes_sublist line)

/-- The lines that a cleaned header is joined from. -/
def keptLines (header : Text) : List Text :=
  ((Text.lines header).map cleanLine).filter fun line => !(Text.trim line).isEmpty

theorem newline_notMem_of_mem_keptLines (h : line ∈ keptLines header) : '\n' ∉ line := by
  obtain ⟨row, hrow, rfl⟩ := List.mem_map.mp (List.mem_filter.mp h).1
  exact fun hmem => Text.newline_notMem_of_mem_lines hrow ((cleanLine_sublist row).mem hmem)

theorem trim_ne_nil_of_mem_keptLines (h : line ∈ keptLines header) : Text.trim line ≠ [] := by
  simpa using (List.mem_filter.mp h).2

end Cleaning

section Gist

/-- What cleaning may take out of a header. -/
def isMarkup (c : Char) : Bool := c = '/' || c = '*' || Text.isBlank c

/-- The characters that cleaning keeps, in their order. -/
def gist (t : Text) : Text := t.filter fun c => !isMarkup c

variable {c : Char} {t : Text}

theorem isMarkup_of_isBlank (h : Text.isBlank c = true) : isMarkup c = true := by
  simp [isMarkup, h]

theorem gist_append (s t : Text) : gist (s ++ t) = gist s ++ gist t :=
  List.filter_append s t

theorem gist_flatten (ts : List Text) : gist ts.flatten = (ts.map gist).flatten :=
  List.filter_flatten

theorem gist_cons_of_isMarkup (h : isMarkup c = true) : gist (c :: t) = gist t := by
  rw [gist, List.filter_cons_of_neg (by simp [h])]
  rfl

theorem gist_dropWhile {p : Char → Bool} (h : ∀ c, p c = true → isMarkup c = true) (t : Text) :
    gist (t.dropWhile p) = gist t :=
  Text.filter_dropWhile (fun c hc => by simp [h c hc]) t

theorem gist_trim (t : Text) : gist (Text.trim t) = gist t :=
  Text.filter_trim (fun c hc => by simp [isMarkup_of_isBlank hc]) t

theorem gist_dropBlank (t : Text) : gist (Text.dropBlank t) = gist t := by
  cases t with
  | nil => rfl
  | cons c t =>
    rw [Text.dropBlank]
    split
    · rename_i hblank
      rw [gist_cons_of_isMarkup (isMarkup_of_isBlank hblank)]
    · rfl

theorem gist_erasePair {a b : Char} (ha : isMarkup a = true) (hb : isMarkup b = true) (t : Text) :
    gist (Text.erasePair a b t) = gist t := by
  fun_induction Text.erasePair a b t with
  | case1 x y rest hpair ih =>
    obtain ⟨rfl, rfl⟩ := hpair
    rw [ih, gist_cons_of_isMarkup ha, gist_cons_of_isMarkup hb]
  | case2 x y rest _ ih =>
    change gist ([x] ++ _) = gist ([x] ++ _)
    rw [gist_append, ih, ← gist_append]
  | case3 t _ => rfl

theorem gist_dropSlashes (line : Text) : gist (dropSlashes line) = gist line := by
  simp only [dropSlashes]
  split
  · rw [gist_dropBlank, gist_dropWhile fun c hc => by simp [isMarkup, of_decide_eq_true hc],
      Text.trimStart, gist_dropWhile fun _ => isMarkup_of_isBlank]
  · rfl

theorem gist_dropStar (line : Text) : gist (dropStar line) = gist line := by
  unfold dropStar
  split
  · rename_i rest hrest
    rw [gist_dropBlank, ← gist_dropWhile (fun _ => isMarkup_of_isBlank) line, ← Text.trimStart,
      hrest, gist_cons_of_isMarkup rfl]
  · rfl

theorem gist_cleanLine (line : Text) : gist (cleanLine line) = gist line := by
  rw [cleanLine, gist_dropStar, gist_erasePair rfl rfl, gist_erasePair rfl rfl, gist_dropSlashes]

theorem gist_chomp (row : Text) : gist (Text.chomp row) = gist row := by
  rw [← gist_trim, Text.trim_chomp, gist_trim]

theorem gist_joinWith (lines : List Text) :
    gist (Text.joinWith ['\n'] lines) = (lines.map gist).flatten := by
  induction lines with
  | nil => rfl
  | cons line lines ih =>
    cases lines with
    | nil => simp [Text.joinWith]
    | cons next lines =>
      have hjoin : Text.joinWith ['\n'] (line :: next :: lines) =
          line ++ '\n' :: Text.joinWith ['\n'] (next :: lines) := by
        simp [Text.joinWith, List.intercalate_cons_cons]
      rw [hjoin, gist_append, gist_cons_of_isMarkup rfl, ih]
      rfl

theorem flatten_map_gist_filter (lines : List Text) :
    ((lines.filter fun line => !(Text.trim line).isEmpty).map gist).flatten =
      (lines.map gist).flatten := by
  induction lines with
  | nil => rfl
  | cons line lines ih =>
    rw [List.filter_cons]
    split
    · rw [List.map_cons, List.map_cons, List.flatten_cons, List.flatten_cons, ih]
    · rename_i hblank
      have hempty : Text.trim line = [] := by simpa using hblank
      rw [List.map_cons, List.flatten_cons, ih, ← gist_trim line, hempty]
      rfl

theorem flatten_map_gist_keptLines (header : Text) :
    ((keptLines header).map gist).flatten = gist header := by
  have hline : ∀ row ∈ Text.rows header, gist (cleanLine (Text.chomp row)) = gist row := by
    intro row _
    rw [gist_cleanLine, gist_chomp]
  calc ((keptLines header).map gist).flatten
      = (((Text.lines header).map cleanLine).map gist).flatten := flatten_map_gist_filter _
    _ = ((Text.rows header).map fun row => gist (cleanLine (Text.chomp row))).flatten := by
        rw [Text.lines, List.map_map, List.map_map]
        rfl
    _ = ((Text.rows header).map gist).flatten := by rw [List.map_congr_left hline]
    _ = gist header := by rw [← gist_flatten, Text.flatten_rows]

theorem gist_cleanHeader (header : Text) : gist (cleanHeader header) = gist header := by
  change gist (Text.trim (Text.joinWith ['\n'] (keptLines header))) = _
  rw [gist_trim, gist_joinWith, flatten_map_gist_keptLines]

end Gist

end LabGrader.Submission
