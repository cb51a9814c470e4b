import LabGrader.Source.Blanking
import LabGrader.Style

/-!
# Stripping goes on where it stopped

The scan reads one character at a time, or two that open or close a comment together. So a text can
be cut in two and scanned part by part: the second part is scanned in the mode that the first one
ends in. Only where such a pair is cut apart does what follows matter for what was put out, and of
that only a slash at the end.
-/

namespace LabGrader.Source

/-- The mode behind two characters that are read together. -/
def Mode.pair? : Mode → Char → Char → Option Mode
  | .code, '/', '/' => some .lineComment
  | .code, '/', '*' => some .blockComment
  | .blockComment, '*', '/' => some .code
  | _, _, _ => none

/-- What is put out for a character that is read alone, and the mode behind it. -/
def Mode.single : Mode → Char → Char × Mode
  | .code, c => if isQuote c then (' ', .literal c false) else (c, .code)
  | .lineComment, c => (blanked c, if c = '\n' then .code else .lineComment)
  | .blockComment, c => (blanked c, .blockComment)
  | .literal quote true, c => (blanked c, .literal quote false)
  | .literal quote false, c => (blanked c, .inLiteral quote c)

/-- In front of `t` the character is read alone. -/
def Mode.Alone (m : Mode) (c : Char) (t : Text) : Prop := ∀ d u, t = d :: u → m.pair? c d = none

/-- A slash was put out last, and with what follows it opens a comment. -/
def Straddles (out next : Text) : Prop :=
  out.getLast? = some '/' ∧ (next.head? = some '/' ∨ next.head? = some '*')

instance (out next : Text) : Decidable (Straddles out next) := inferInstanceAs (Decidable (_ ∧ _))

/-- What was put out, with a space for a slash that turns out to open a comment. -/
def revised (out next : Text) : Text := if Straddles out next then out.dropLast ++ [' '] else out

section Step
variable {m m' : Mode} {c d : Char} {t : Text}

theorem Mode.pair?_eq_some_iff :
    m.pair? c d = some m' ↔
      (m = .code ∧ c = '/' ∧ d = '/' ∧ m' = .lineComment) ∨
      (m = .code ∧ c = '/' ∧ d = '*' ∧ m' = .blockComment) ∨
      (m = .blockComment ∧ c = '*' ∧ d = '/' ∧ m' = .code) := by
  constructor
  · intro h
    unfold pair? at h
    split at h <;> simp_all
  · rintro (⟨rfl, rfl, rfl, rfl⟩ | ⟨rfl, rfl, rfl, rfl⟩ | ⟨rfl, rfl, rfl, rfl⟩) <;> rfl

theorem Mode.pair_or_alone (m : Mode) (c : Char) (t : Text) :
    (∃ d u m', t = d :: u ∧ m.pair? c d = some m') ∨ m.Alone c t := by
  cases t with
  | nil => exact Or.inr fun _ _ h => nomatch h
  | cons d u =>
    cases hpair : m.pair? c d with
    | some m' => exact Or.inl ⟨d, u, m', rfl, hpair⟩
    | none =>
      refine Or.inr ?_
      rintro _ _ ⟨⟩
      exact hpair

theorem scan_pair (h : m.pair? c d = some m') (t : Text) :
    scan m (c :: d :: t) = ' ' :: ' ' :: scan m' t ∧ modeAfter m (c :: d :: t) = modeAfter m' t := by
  rcases Mode.pair?_eq_some_iff.mp h with ⟨rfl, rfl, rfl, rfl⟩ | ⟨rfl, rfl, rfl, rfl⟩ |
    ⟨rfl, rfl, rfl, rfl⟩
  · exact ⟨rfl, rfl⟩
  · exact ⟨rfl, rfl⟩
  · exact ⟨rfl, rfl⟩

theorem scan_single (h : m.Alone c t) :
    scan m (c :: t) = (m.single c).1 :: scan (m.single c).2 t ∧
      modeAfter m (c :: t) = modeAfter (m.single c).2 t := by
  cases m with
  | code =>
    have hline : ∀ u, c = '/' → t = '/' :: u → False := by
      rintro u rfl rfl
      cases h _ _ rfl
    have hblock : ∀ u, c = '/' → t = '*' :: u → False := by
      rintro u rfl rfl
      cases h _ _ rfl
    rw [scan, modeAfter, Mode.single]
    · split <;> exact ⟨rfl, rfl⟩
    · exact hline
    · exact hblock
    · exact hline
    · exact hblock
  | lineComment =>
    rw [scan, modeAfter]
    exact ⟨rfl, rfl⟩
  | blockComment =>
    have hclose : ∀ u, c = '*' → t = '/' :: u → False := by
      rintro u rfl rfl
      cases h _ _ rfl
    rw [scan, modeAfter]
    · exact ⟨rfl, rfl⟩
    · exact hclose
    · exact hclose
  | literal quote escaped =>
    cases escaped <;> rw [scan, modeAfter] <;> exact ⟨rfl, rfl⟩

/-- A text is read in single characters and in pairs. -/
theorem reading_induction {P : Mode → Text → Prop} (nil : ∀ m, P m [])
    (pair : ∀ m m' c d t, m.pair? c d = some m' → P m' t → P m (c :: d :: t))
    (single : ∀ m c t, m.Alone c t → P (m.single c).2 t → P m (c :: t)) (m : Mode) (t : Text) :
    P m t := by
  induction hlength : t.length using Nat.strongRecOn generalizing m t with
  | ind n ih =>
    cases t with
    | nil => exact nil m
    | cons c t =>
      rw [List.length_cons] at hlength
      rcases m.pair_or_alone c t with ⟨d, u, m', rfl, hpair⟩ | halone
      · rw [List.length_cons] at hlength
        exact pair m m' c d u hpair (ih u.length (by omega) m' u rfl)
      · exact single m c t halone (ih t.length (by omega) _ t rfl)

theorem length_scan (m : Mode) (t : Text) : (scan m t).length = t.length := by
  induction m, t using reading_induction with
  | nil m => rfl
  | pair m m' c d t hpair ih =>
    rw [(scan_pair hpair t).1]
    simp [ih]
  | single m c t hsingle ih =>
    rw [(scan_single hsingle).1]
    simp [ih]

end Step

section Cut
variable {m m' : Mode} {out next : Text} {c d : Char}

theorem Straddles.cons (h : Straddles out next) : Straddles (c :: out) next := by
  obtain ⟨hslash, hnext⟩ := h
  refine ⟨?_, hnext⟩
  rw [List.getLast?_cons, hslash]
  rfl

theorem length_revised (out next : Text) : (revised out next).length = out.length := by
  unfold revised
  split
  · rename_i hstraddles
    have hpos : 0 < out.length := List.length_pos_of_mem (List.mem_of_getLast? hstraddles.1)
    simp only [List.length_append, List.length_dropLast, List.length_singleton]
    omega
  · rfl

theorem revised_cons (h : out = [] → ¬ Straddles [c] next) :
    revised (c :: out) next = c :: revised out next := by
  cases out with
  | nil =>
    rw [revised, if_neg (h rfl)]
    rfl
  | cons d out =>
    have hsame : Straddles (c :: d :: out) next ↔ Straddles (d :: out) next := by
      rw [Straddles, Straddles, List.getLast?_cons_cons]
    unfold revised
    by_cases hstraddles : Straddles (d :: out) next
    · rw [if_pos (hsame.mpr hstraddles), if_pos hstraddles]
      rfl
    · rw [if_neg (mt hsame.mp hstraddles), if_neg hstraddles]

theorem revised_space_cons (out next : Text) :
    revised (' ' :: out) next = ' ' :: revised out next := by
  apply revised_cons
  rintro - ⟨hslash, -⟩
  cases hslash

theorem blanked_ne_slash (c : Char) : blanked c ≠ '/' := by
  unfold blanked
  split
  · rename_i hend
    rcases hend with rfl | rfl <;> decide
  · decide

theorem single_eq_slash (h : (m.single c).1 = '/') : m = .code ∧ c = '/' := by
  cases m with
  | code =>
    rw [Mode.single] at h
    split at h
    · cases h
    · exact ⟨rfl, h⟩
  | lineComment => exact absurd h (blanked_ne_slash c)
  | blockComment => exact absurd h (blanked_ne_slash c)
  | literal quote escaped => cases escaped <;> exact absurd h (blanked_ne_slash c)

theorem not_straddles_single (h : m.Alone c next) :
    ¬ Straddles [(m.single c).1] next := by
  rintro ⟨hslash, hnext⟩
  obtain ⟨rfl, rfl⟩ := single_eq_slash (Option.some.inj hslash)
  rcases hnext with hnext | hnext
  · obtain ⟨u, rfl⟩ := List.head?_eq_some_iff.mp hnext
    cases h _ _ rfl
  · obtain ⟨u, rfl⟩ := List.head?_eq_some_iff.mp hnext
    cases h _ _ rfl

/-- A pair that is cut apart opens a comment, and then its slash is revised, or closes one. -/
theorem revised_single_of_pair (h : m.pair? c d = some m') (u : Text) :
    revised [(m.single c).1] (d :: u) = [' '] ∧
      (Straddles [(m.single c).1] (d :: u) ∨ (m.single c).2 = .blockComment ∧ d = '/') := by
  rcases Mode.pair?_eq_some_iff.mp h with ⟨rfl, rfl, rfl, -⟩ | ⟨rfl, rfl, rfl, -⟩ |
    ⟨rfl, rfl, rfl, -⟩
  · exact ⟨rfl, Or.inl ⟨rfl, Or.inl rfl⟩⟩
  · exact ⟨rfl, Or.inl ⟨rfl, Or.inr rfl⟩⟩
  · exact ⟨rfl, Or.inr ⟨rfl, rfl⟩⟩

/-- What was put out for the first part is only revised, and unless a pair is cut apart the second
part is scanned in the mode that the first one ends in. -/
theorem exists_scan_append (m : Mode) (a b : Text) :
    ∃ out, scan m (a ++ b) = revised (scan m a) b ++ out ∧
      (¬ Straddles (scan m a) b → (modeAfter m a = .blockComment → b.head? ≠ some '/') →
        out = scan (modeAfter m a) b) := by
  induction m, a using reading_induction with
  | nil m => exact ⟨scan m b, rfl, fun _ _ => rfl⟩
  | pair m m' c d a hpair ih =>
    obtain ⟨out, hout, hrest⟩ := ih
    rw [List.cons_append, List.cons_append, (scan_pair hpair _).1, (scan_pair hpair a).1,
      (scan_pair hpair a).2]
    refine ⟨out, ?_, ?_⟩
    · rw [hout, revised_space_cons, revised_space_cons]
      rfl
    · intro hstraddles
      exact hrest fun h => hstraddles h.cons.cons
  | single m c a hsingle ih =>
    obtain ⟨out, hout, hrest⟩ := ih
    rw [(scan_single hsingle).1, (scan_single hsingle).2, List.cons_append]
    rcases m.pair_or_alone c (a ++ b) with ⟨d, u, m', hu, hpair⟩ | halone
    · cases a with
      | cons e a =>
        obtain ⟨rfl, -⟩ := List.cons.inj hu
        rw [hsingle _ _ rfl] at hpair
        cases hpair
      | nil =>
        -- the pair is cut apart
        obtain rfl : b = d :: u := hu
        obtain ⟨hrevised, hapart⟩ := revised_single_of_pair hpair u
        refine ⟨' ' :: scan m' u, ?_, ?_⟩
        · rw [List.nil_append, (scan_pair hpair u).1, scan, hrevised]
          rfl
        · intro hstraddles hblock
          rcases hapart with h | ⟨hmode, rfl⟩
          · exact absurd h hstraddles
          · exact absurd rfl (hblock hmode)
    · rw [(scan_single halone).1]
      refine ⟨out, ?_, ?_⟩
      · rw [hout, revised_cons]
        · rfl
        · intro hnil
          have ha : a = [] := by
            rw [← List.length_eq_zero_iff, ← length_scan (m.single c).2 a, hnil]
            rfl
          rw [ha] at halone
          exact not_straddles_single halone
      · intro hstraddles
        exact hrest fun h => hstraddles h.cons

end Cut

section Streaming
variable {a b : Text}

theorem take_strip_append (a b : Text) :
    (strip (a ++ b)).take a.length = revised (strip a) b := by
  obtain ⟨out, hout, -⟩ := exists_scan_append .code a b
  have hlength : (revised (scan .code a) b).length = a.length := by
    rw [length_revised, length_scan]
  rw [strip, strip, hout, ← hlength, List.take_left]

theorem strip_append (hstraddles : ¬ Straddles (strip a) b)
    (hblock : modeAfter .code a = .blockComment → b.head? ≠ some '/') :
    strip (a ++ b) = strip a ++ scan (modeAfter .code a) b := by
  obtain ⟨out, hout, hrest⟩ := exists_scan_append .code a b
  have hkept : revised (scan .code a) b = scan .code a := if_neg hstraddles
  rw [strip, strip, hout, hrest hstraddles hblock, hkept]

theorem strip_append_newline (h : modeAfter .code a = .code ∨ modeAfter .code a = .lineComment)
    (b : Text) : strip (a ++ '\n' :: b) = strip a ++ '\n' :: strip b := by
  have hstraddles : ¬ Straddles (strip a) ('\n' :: b) := by
    rintro ⟨-, hnext | hnext⟩ <;> cases hnext
  have hblock : modeAfter .code a = .blockComment → ('\n' :: b).head? ≠ some '/' := by
    rintro - hnext
    cases hnext
  rw [strip_append hstraddles hblock]
  rcases h with hmode | hmode
  · rw [hmode, (scan_single fun _ _ _ => rfl).1]
    rfl
  · rw [hmode, (scan_single fun _ _ _ => rfl).1]
    rfl

theorem braceViolations_append_newline (out next : Text) :
    Style.braceViolations (out ++ '\n' :: next) =
      Style.braceViolations out + Style.braceViolations next := by
  rw [Style.braceViolations, List.splitOn_append_cons_self, List.countP_append]
  rfl

/-- A text put behind another changes nothing of what was put out for that but a slash at its end,
and is itself stripped as the mode behind the first one demands: as if it stood alone, if that is
code. A line feed behind code or a line comment cuts a text into two that have nothing to do with
each other, so that their crowded lines add up. -/
theorem strip_streaming (a b : Text) :
    (strip (a ++ b)).take a.length = revised (strip a) b ∧
    (¬ Straddles (strip a) b → (modeAfter .code a = .blockComment → b.head? ≠ some '/') →
      strip (a ++ b) = strip a ++ scan (modeAfter .code a) b) ∧
    (modeAfter .code a = .code → ¬ Straddles (strip a) b → strip (a ++ b) = strip a ++ strip b) ∧
    (modeAfter .code a = .code ∨ modeAfter .code a = .lineComment →
      strip (a ++ '\n' :: b) = strip a ++ '\n' :: strip b ∧
      Style.braceViolations (strip (a ++ '\n' :: b)) =
        Style.braceViolations (strip a) + Style.braceViolations (strip b)) := by
  refine ⟨take_strip_append a b, strip_append, ?_, ?_⟩
  · intro hmode hstraddles
    rw [strip_append hstraddles (by rw [hmode]; intro h; cases h), hmode]
    rfl
  · intro hmode
    rw [strip_append_newline hmode, braceViolations_append_newline]
    exact ⟨rfl, rfl⟩

/-- Behind a literal that looks like a comment the slash is code, until it is known to open one. -/
example : strip "a = \"//\"; /".toList = "a =     ; /".toList ∧
    modeAfter .code "a = \"//\"; /".toList = .code ∧
    revised "a =     ; /".toList "* b".toList = "a =     ;  ".toList := by decide

end Streaming

end LabGrader.Source
