import LabGrader.Proofs.Text.Cut
import LabGrader.Response

/-!
# Answers give back their fields

An answer in the wanted form may hold blanks and markup anywhere, also inside of its marks. Cleaning
takes them out, and each mark is then found where it was put: every mark ends at its only colon and
no mark ends in another, so none begins in one part of the answer and ends in the next.
-/

namespace LabGrader.Response

/-- A text with blanks and markup put in anywhere. -/
inductive Decorated : Text → Text → Prop where
  | nil : Decorated [] []
  | keep {plain answer : Text} (c : Char) :
      Decorated plain answer → Decorated (c :: plain) (c :: answer)
  | decorate {plain answer : Text} {c : Char} :
      isMarkup c = true → Decorated plain answer → Decorated plain (c :: answer)

section Cleaning
variable {plain answer : Text}

theorem clean_of_decorated (h : Decorated plain answer) : clean answer = clean plain := by
  induction h with
  | nil => rfl
  | keep c _ ih =>
    unfold clean at ih ⊢
    rw [List.filter_cons, List.filter_cons, ih]
  | decorate hmarkup _ ih =>
    unfold clean at ih ⊢
    rw [List.filter_cons_of_neg (by simp [hmarkup]), ih]

/-- Every text is a decoration of what cleaning leaves of it. -/
theorem decorated_clean (t : Text) : Decorated (clean t) t := by
  induction t with
  | nil => exact .nil
  | cons c t ih =>
    unfold clean at ih ⊢
    by_cases hmarkup : isMarkup c = true
    · rw [List.filter_cons_of_neg (by simp [hmarkup])]
      exact .decorate hmarkup ih
    · rw [List.filter_cons_of_pos (by simpa using hmarkup)]
      exact .keep c ih

theorem clean_eq_self_iff : clean plain = plain ↔ ∀ c ∈ plain, isMarkup c = false := by
  unfold clean
  rw [List.filter_eq_self]
  simp only [Bool.not_eq_true']

end Cleaning

section Marks
variable {f g : Field} {a b : Text}

/-- The word of a mark, which stands before its colon. -/
def word (f : Field) : Text := f.opening.dropLast

theorem opening_eq (f : Field) : f.opening = word f ++ [':'] := by
  cases f <;> rfl

theorem colon_notMem_word (f : Field) : ':' ∉ word f := by
  cases f <;> decide

theorem eq_of_word_suffix (h : word f <:+ word g) : f = g := by
  revert h
  cases f <;> cases g <;> decide

/-- Another mark does not make up this one with what is around it. -/
theorem not_infix_append_opening (hne : f ≠ g) (ha : ¬ f.opening <:+: a)
    (hb : ¬ f.opening <:+: b) : ¬ f.opening <:+: a ++ g.opening ++ b := by
  have hword : ¬ word f <:+ a ++ word g := by
    intro h
    rcases List.suffix_or_suffix_of_suffix h (List.suffix_append a (word g)) with h | h
    · exact hne (eq_of_word_suffix h)
    · exact hne (eq_of_word_suffix h).symm
  rw [opening_eq f] at ha hb ⊢
  rw [opening_eq g, ← List.append_assoc a, List.append_assoc, List.singleton_append,
    Text.infix_append_cons_iff (colon_notMem_word f),
    Text.infix_append_iff_of_notMem (colon_notMem_word g)]
  rintro (h | h | h)
  · exact hword h
  · exact ha h
  · exact hb h

theorem cut_opening (h : ¬ f.opening <:+: a) (b : Text) :
    Text.cut f.opening (a ++ f.opening ++ b) = some (a, b) := by
  apply Text.cut_append
  · simp [opening_eq]
  · rw [opening_eq] at h ⊢
    rwa [List.dropLast_concat, Text.infix_append_iff_of_notMem (colon_notMem_word f)]

/-- A field runs from its first mark to the next mark of the field after it. -/
theorem find_between {inside : Text} (hnext : f.closing? = some g.opening)
    (ha : ¬ f.opening <:+: a) (hinside : ¬ g.opening <:+: inside) (b : Text) :
    f.find (a ++ f.opening ++ (inside ++ g.opening ++ b)) = .ok inside := by
  simp only [Field.find, cut_opening ha, hnext, cut_opening hinside]

theorem find_confidence (ha : ¬ confidenceMark <:+: a) (b : Text) :
    Field.confidence.find (a ++ confidenceMark ++ b) = .ok b := by
  have hcut := cut_opening (f := .confidence) ha b
  simp only [Field.find, Field.opening, Field.closing?] at hcut ⊢
  rw [hcut]

end Marks

section Found
variable {c : Char} {t inside : Text}

theorem infix_of_find {f : Field} (h : f.find t = .ok inside) : inside <:+: t := by
  unfold Field.find at h
  split at h
  · cases h
  · rename_i before rest hopening
    have hrest : rest <:+ t :=
      ⟨before ++ f.opening, (Text.eq_append_of_cut hopening).symm⟩
    split at h
    · cases h
      exact hrest.isInfix
    · rename_i mark hnext
      split at h
      · cases h
      · rename_i after hclosing
        cases h
        have hinside : inside <+: rest := by
          rw [Text.eq_append_of_cut hclosing, List.append_assoc]
          exact List.prefix_append _ _
        exact hinside.isInfix.trans hrest.isInfix

theorem isMarkup_of_mem_found {f : Field}
    (hc : c ∈ (f.find (clean t)).toOption.getD []) : isMarkup c = false := by
  cases hfound : f.find (clean t) with
  | error mark =>
    rw [hfound] at hc
    cases hc
  | ok inside =>
    rw [hfound] at hc
    have hclean := (List.mem_filter.mp ((infix_of_find hfound).mem hc)).2
    simpa using hclean

end Found

section Answers
variable {before score comments confidence answer : Text}

/-- The wanted form of an answer, with anything in front of it. -/
def form (before score comments confidence : Text) : Text :=
  before ++ scoreMark ++ score ++ commentsMark ++ comments ++ confidenceMark ++ confidence

theorem ofCleaned_form
    (hbefore : ¬ scoreMark <:+: before ∧ ¬ commentsMark <:+: before ∧ ¬ confidenceMark <:+: before)
    (hscore : ¬ commentsMark <:+: score ∧ ¬ confidenceMark <:+: score)
    (hcomments : ¬ confidenceMark <:+: comments) :
    ofCleaned (form before score comments confidence) =
      ⟨some score, some comments, some confidence⟩ := by
  obtain ⟨hbeforeScore, hbeforeComments, hbeforeConfidence⟩ := hbefore
  have hscoreFound : Field.score.find (form before score comments confidence) = .ok score := by
    have hfound := find_between (f := .score) (g := .comments) rfl hbeforeScore hscore.1
      (comments ++ confidenceMark ++ confidence)
    simpa [form, Field.opening] using hfound
  have hcommentsFound :
      Field.comments.find (form before score comments confidence) = .ok comments := by
    have hfront : ¬ commentsMark <:+: before ++ scoreMark ++ score :=
      not_infix_append_opening (f := .comments) (g := .score) (by decide) hbeforeComments hscore.1
    have hfound := find_between (f := .comments) (g := .confidence) rfl hfront hcomments confidence
    simpa [form, Field.opening] using hfound
  have hconfidenceFound :
      Field.confidence.find (form before score comments confidence) = .ok confidence := by
    have hscoreFront : ¬ confidenceMark <:+: before ++ scoreMark ++ score :=
      not_infix_append_opening (f := .confidence) (g := .score) (by decide) hbeforeConfidence
        hscore.2
    have hfront : ¬ confidenceMark <:+: before ++ scoreMark ++ score ++ commentsMark ++ comments :=
      not_infix_append_opening (f := .confidence) (g := .comments) (by decide) hscoreFront hcomments
    exact find_confidence hfront confidence
  simp [ofCleaned, hscoreFound, hcommentsFound, hconfidenceFound, Except.toOption]

/-- An answer in the wanted form, whatever blanks and markup it has been given, is read as the three
fields it was made of. -/
theorem parse_decorated
    (hplain : ∀ c ∈ before ++ score ++ comments ++ confidence, isMarkup c = false)
    (hbefore : ¬ scoreMark <:+: before ∧ ¬ commentsMark <:+: before ∧ ¬ confidenceMark <:+: before)
    (hscore : ¬ commentsMark <:+: score ∧ ¬ confidenceMark <:+: score)
    (hcomments : ¬ confidenceMark <:+: comments)
    (hanswer : Decorated (form before score comments confidence) answer) :
    parse answer = ⟨some score, some comments, some confidence⟩ ∧
    (parse answer).scoreText = score ∧ (parse answer).commentsText = comments ∧
    (parse answer).confidenceText = confidence := by
  have hclean : clean answer = form before score comments confidence := by
    rw [clean_of_decorated hanswer]
    apply clean_eq_self_iff.mpr
    intro c hc
    have hmarks : ∀ c ∈ scoreMark ++ commentsMark ++ confidenceMark, isMarkup c = false :=
      clean_eq_self_iff.mp rfl
    simp only [form, List.mem_append] at hc hplain hmarks
    grind
  have hparse : parse answer = ⟨some score, some comments, some confidence⟩ := by
    rw [parse, hclean, ofCleaned_form hbefore hscore hcomments]
  rw [hparse]
  exact ⟨rfl, rfl, rfl, rfl⟩

end Answers

namespace Sample

/-- Every part ends in the beginning of the mark behind it. -/
def decorated : Text :=
  "A COMMENTS\n## **SC ORE:** 9 5 SCORE: COMM\n".toList ++
    "*COMMENTS* : nice CONFI #\n**CONFIDENCE:** 4 SCORE:".toList

end Sample

theorem parse_decorated_sample :
    Decorated (form "ACOMMENTS".toList "95SCORE:COMM".toList "niceCONFI".toList "4SCORE:".toList)
      Sample.decorated ∧
    parse Sample.decorated =
      ⟨some "95SCORE:COMM".toList, some "niceCONFI".toList, some "4SCORE:".toList⟩ := by
  have hclean : clean Sample.decorated =
      form "ACOMMENTS".toList "95SCORE:COMM".toList "niceCONFI".toList "4SCORE:".toList := by
    decide
  have hanswer := hclean ▸ decorated_clean Sample.decorated
  exact ⟨hanswer,
    (parse_decorated (clean_eq_self_iff.mp rfl) (by decide) (by decide) (by decide) hanswer).1⟩

end LabGrader.Response
