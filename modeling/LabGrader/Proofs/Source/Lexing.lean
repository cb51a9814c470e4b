import LabGrader.Source.Blanking
import Mathlib.Data.List.Forall2
import Mathlib.Logic.ExistsUnique

/-!
# Stripping follows the lexing of a text

A text falls into plain characters, comments and literals, in one way only. A comment or literal
runs from its opening mark to the first place where it closes. The scan blanks exactly what does
not stand as a plain character.
-/

namespace LabGrader.Source

/-- What keeps text out of the code. -/
inductive Kind where
  | line
  | block
  | string
  | character
deriving DecidableEq

/-- Whether a run of backslashes of odd length stands at the end. -/
def Escaped (t : Text) : Prop := (t.reverse.takeWhile (· = '\\')).length % 2 = 1

instance (t : Text) : Decidable (Escaped t) := inferInstanceAs (Decidable (_ = _))

namespace Kind

def opening : Kind → Text
  | .line => ['/', '/']
  | .block => ['/', '*']
  | .string => ['"']
  | .character => ['\'']

/-- The end of a line closes a line comment and does not belong to it. -/
def closing : Kind → Text
  | .line => []
  | .block => ['*', '/']
  | .string => ['"']
  | .character => ['\'']

/-- Whether it closes between `inside`, all there is of it so far, and what comes next. -/
def Closes (k : Kind) (inside next : Text) : Prop :=
  match k with
  | .line => ['\n'] <+: next
  | .block => ['*', '/'] <+: next
  | .string => ['"'] <+: next ∧ ¬ Escaped inside
  | .character => ['\''] <+: next ∧ ¬ Escaped inside

/-- It does not close before the end of `body`, if `inside` and `next` stand around that. -/
def StaysOpen (k : Kind) (inside body next : Text) : Prop :=
  ∀ front back, body = front ++ back → back ≠ [] → ¬ k.Closes (inside ++ front) (back ++ next)

/-- The mode of the scan inside. -/
def mode (k : Kind) (inside : Text) : Mode :=
  match k with
  | .line => .lineComment
  | .block => .blockComment
  | .string => .literal '"' (decide (Escaped inside))
  | .character => .literal '\'' (decide (Escaped inside))

end Kind

inductive Segment where
  | plain (c : Char)
  | closed (kind : Kind) (body : Text)
  /-- it runs to the end of the text -/
  | unclosed (kind : Kind) (body : Text)
deriving DecidableEq

namespace Segment

def text : Segment → Text
  | .plain c => [c]
  | .closed k body => k.opening ++ body ++ k.closing
  | .unclosed k body => k.opening ++ body

def blanked : Segment → Text
  | .plain c => [c]
  | .closed k body => (k.opening ++ body ++ k.closing).map Source.blanked
  | .unclosed k body => (k.opening ++ body).map Source.blanked

/-- Whether a segment can stand before `rest`. Where something opens there is no plain character,
and what is open is closed at the first opportunity. -/
def Fits (rest : Text) : Segment → Prop
  | .plain c => ∀ k : Kind, ¬ k.opening <+: c :: rest
  | .closed k body =>
    k.StaysOpen [] body (k.closing ++ rest) ∧ k.Closes body (k.closing ++ rest)
  | .unclosed k body => k.StaysOpen [] body [] ∧ rest = []

end Segment

/-- The segments of a text from left to right. -/
inductive Lexes : Text → List Segment → Prop where
  | nil : Lexes [] []
  | cons {segment : Segment} {rest : Text} {segments : List Segment} :
      segment.Fits rest → Lexes rest segments → Lexes (segment.text ++ rest) (segment :: segments)

theorem escaped_concat (t : Text) (c : Char) :
    Escaped (t ++ [c]) ↔ c = '\\' ∧ ¬ Escaped t := by
  unfold Escaped
  by_cases hc : c = '\\'
  · simp [hc]
    omega
  · simp [hc]

section Kinds
variable {k k' : Kind} {inside body rest next : Text}

theorem Kind.eq_of_opening (h : k.opening ++ body = k'.opening ++ rest) :
    k = k' ∧ body = rest := by
  cases k <;> cases k' <;> simp_all [Kind.opening]

theorem Kind.closing_prefix (h : k.Closes inside next) : k.closing <+: next := by
  cases k with
  | line => exact List.nil_prefix
  | block => exact h
  | string => exact h.1
  | character => exact h.1

theorem Kind.not_closes_nil (k : Kind) (inside : Text) : ¬ k.Closes inside [] := by
  cases k <;> simp [Kind.Closes]

theorem Kind.staysOpen_nil (k : Kind) (inside next : Text) : k.StaysOpen inside [] next := by
  intro front back h hback
  exact absurd (List.append_eq_nil_iff.mp h.symm).2 hback

theorem Kind.staysOpen_cons {c : Char} :
    k.StaysOpen inside (c :: body) next ↔
      ¬ k.Closes inside (c :: (body ++ next)) ∧ k.StaysOpen (inside ++ [c]) body next := by
  constructor
  · intro h
    refine ⟨by simpa using h [] (c :: body) rfl (by simp), ?_⟩
    intro front back hbody hback
    simpa using h (c :: front) back (by simp [hbody]) hback
  · rintro ⟨hfirst, hrest⟩ front back hbody hback
    cases front with
    | nil =>
      obtain rfl : c :: body = back := hbody
      simpa using hfirst
    | cons a front =>
      obtain ⟨rfl, hbody'⟩ := List.cons.inj hbody
      simpa using hrest front back hbody' hback

/-- What closes first is closed in one way only. -/
theorem Kind.closed_unique {body' rest' : Text} (hopen : k.StaysOpen [] body (k.closing ++ rest))
    (hclose : k.Closes body (k.closing ++ rest))
    (hopen' : k.StaysOpen [] body' (k.closing ++ rest'))
    (hclose' : k.Closes body' (k.closing ++ rest'))
    (h : body ++ (k.closing ++ rest) = body' ++ (k.closing ++ rest')) :
    body = body' ∧ rest = rest' := by
  rcases List.append_eq_append_iff.mp h with ⟨back, rfl, hback⟩ | ⟨back, rfl, hback⟩
  · by_cases hempty : back = []
    · subst back
      simpa using hback
    · refine absurd hclose ?_
      rw [hback]
      simpa using hopen' body back rfl hempty
  · by_cases hempty : back = []
    · subst back
      simpa using hback.symm
    · refine absurd hclose' ?_
      rw [hback]
      simpa using hopen body' back rfl hempty

theorem Kind.closed_of_unclosed {body' : Text} (hclose : k.Closes body (k.closing ++ rest))
    (hopen' : k.StaysOpen [] body' []) (h : body ++ (k.closing ++ rest) = body') : False := by
  by_cases hempty : k.closing ++ rest = []
  · rw [hempty] at hclose
    exact k.not_closes_nil body hclose
  · have := hopen' body (k.closing ++ rest) h.symm hempty
    rw [List.append_nil] at this
    exact this hclose

/-- Either it closes somewhere, and then at a first place, or it does not. -/
theorem Kind.exists_first (k : Kind) (inside t : Text) :
    (∃ body rest, t = body ++ (k.closing ++ rest) ∧ k.StaysOpen inside body (k.closing ++ rest) ∧
      k.Closes (inside ++ body) (k.closing ++ rest)) ∨ k.StaysOpen inside t [] := by
  induction t generalizing inside with
  | nil => exact Or.inr (k.staysOpen_nil inside [])
  | cons c t ih =>
    by_cases hclose : k.Closes inside (c :: t)
    · obtain ⟨rest, hrest⟩ := Kind.closing_prefix hclose
      refine Or.inl ⟨[], rest, hrest.symm, k.staysOpen_nil inside _, ?_⟩
      rw [List.append_nil, hrest]
      exact hclose
    · rcases ih (inside ++ [c]) with ⟨body, rest, rfl, hopen, hbody⟩ | hopen
      · refine Or.inl ⟨c :: body, rest, rfl, Kind.staysOpen_cons.mpr ⟨hclose, hopen⟩, ?_⟩
        simpa using hbody
      · refine Or.inr (Kind.staysOpen_cons.mpr ⟨?_, hopen⟩)
        simpa using hclose

end Kinds

section Scan
variable {k : Kind} {inside body rest next : Text}

theorem scan_opening (k : Kind) (t : Text) :
    scan .code (k.opening ++ t) = k.opening.map blanked ++ scan (k.mode []) t := by
  cases k with
  | line => simp [Kind.opening, Kind.mode, scan, blanked]
  | block => simp [Kind.opening, Kind.mode, scan, blanked]
  | string => simp [Kind.opening, Kind.mode, scan, blanked, isQuote, Escaped]
  | character => simp [Kind.opening, Kind.mode, scan, blanked, isQuote, Escaped]

theorem scan_plain {c : Char} (h : ∀ k : Kind, ¬ k.opening <+: c :: rest) :
    scan .code (c :: rest) = c :: scan .code rest := by
  have hquote : isQuote c = false := by
    have hstring := h .string
    have hcharacter := h .character
    simp only [Kind.opening, List.cons_prefix_cons, List.nil_prefix, and_true] at hstring hcharacter
    simp [isQuote, Ne.symm hstring, Ne.symm hcharacter]
  rw [scan]
  · simp [hquote]
  · rintro rest' rfl rfl
    exact h .line ⟨rest', rfl⟩
  · rintro rest' rfl rfl
    exact h .block ⟨rest', rfl⟩

theorem scan_open_literal {q c : Char} (h : ¬ (c = q ∧ ¬ Escaped inside)) :
    scan (.literal q (decide (Escaped inside))) (c :: next) =
      blanked c :: scan (.literal q (decide (Escaped (inside ++ [c])))) next := by
  by_cases hescaped : Escaped inside
  · have hnext : ¬ Escaped (inside ++ [c]) := fun h' => ((escaped_concat _ _).mp h').2 hescaped
    simp [hescaped, hnext, scan]
  · have hcq : c ≠ q := fun hcq => h ⟨hcq, hescaped⟩
    by_cases hc : c = '\\'
    · subst c
      have hnext : Escaped (inside ++ ['\\']) := (escaped_concat _ _).mpr ⟨rfl, hescaped⟩
      simp [hescaped, hnext, scan, Mode.inLiteral]
    · have hnext : ¬ Escaped (inside ++ [c]) := fun h' => hc ((escaped_concat _ _).mp h').1
      simp [hescaped, hnext, scan, Mode.inLiteral, hc, hcq]

theorem scan_close_literal {q : Char} (hq : q ≠ '\\') (h : ¬ Escaped inside) (rest : Text) :
    scan (.literal q (decide (Escaped inside))) (q :: rest) = blanked q :: scan .code rest := by
  simp [h, scan, Mode.inLiteral, hq]

theorem scan_open {c : Char} (h : ¬ k.Closes inside (c :: next)) :
    scan (k.mode inside) (c :: next) = blanked c :: scan (k.mode (inside ++ [c])) next := by
  cases k with
  | line =>
    have hc : c ≠ '\n' := by simpa [Kind.Closes, eq_comm] using h
    simp [Kind.mode, scan, hc]
  | block =>
    rw [Kind.mode, scan]
    · rfl
    · rintro rest rfl rfl
      exact h ⟨rest, rfl⟩
  | string => exact scan_open_literal (by simpa [Kind.Closes, eq_comm] using h)
  | character => exact scan_open_literal (by simpa [Kind.Closes, eq_comm] using h)

theorem scan_closing (h : k.Closes inside (k.closing ++ rest)) :
    scan (k.mode inside) (k.closing ++ rest) = k.closing.map blanked ++ scan .code rest := by
  cases k with
  | line =>
    obtain ⟨next, rfl⟩ : ['\n'] <+: rest := h
    simp [Kind.mode, Kind.closing, scan, blanked, isQuote]
  | block => simp [Kind.mode, Kind.closing, scan, blanked]
  | string => exact scan_close_literal (by decide) h.2 rest
  | character => exact scan_close_literal (by decide) h.2 rest

theorem scan_staysOpen (h : k.StaysOpen inside body next) :
    scan (k.mode inside) (body ++ next) =
      body.map blanked ++ scan (k.mode (inside ++ body)) next := by
  induction body generalizing inside with
  | nil => simp
  | cons c body ih =>
    obtain ⟨hfirst, hrest⟩ := Kind.staysOpen_cons.mp h
    rw [List.cons_append, scan_open hfirst, ih hrest]
    simp

end Scan

section Lexings
variable {segment segment' : Segment} {segments : List Segment} {t rest rest' : Text}

theorem Segment.text_ne_nil (segment : Segment) : segment.text ≠ [] := by
  cases segment with
  | plain c => simp [Segment.text]
  | closed k body => cases k <;> simp [Segment.text, Kind.opening]
  | unclosed k body => cases k <;> simp [Segment.text, Kind.opening]

theorem scan_segment (h : segment.Fits rest) :
    scan .code (segment.text ++ rest) = segment.blanked ++ scan .code rest := by
  cases segment with
  | plain c => exact scan_plain h
  | closed k body =>
    obtain ⟨hopen, hclose⟩ := h
    simp only [Segment.text, Segment.blanked, List.append_assoc, List.map_append]
    rw [scan_opening, scan_staysOpen hopen, List.nil_append, scan_closing hclose]
  | unclosed k body =>
    obtain ⟨hopen, rfl⟩ := h
    have hscan := scan_staysOpen hopen
    simp only [Segment.text, Segment.blanked, List.append_assoc, List.map_append]
    rw [scan_opening, hscan]
    simp [scan]

theorem exists_fits (h : t ≠ []) :
    ∃ (segment : Segment) (rest : Text), segment.Fits rest ∧ t = segment.text ++ rest := by
  by_cases hopens : ∃ k : Kind, k.opening <+: t
  · obtain ⟨k, t, rfl⟩ := hopens
    rcases k.exists_first [] t with ⟨body, rest, rfl, hopen, hclose⟩ | hopen
    · exact ⟨.closed k body, rest, ⟨hopen, hclose⟩, by simp [Segment.text]⟩
    · exact ⟨.unclosed k t, [], ⟨hopen, rfl⟩, by simp [Segment.text]⟩
  · cases t with
    | nil => exact absurd rfl h
    | cons c rest => exact ⟨.plain c, rest, fun k hk => hopens ⟨k, hk⟩, rfl⟩

theorem eq_plain_of_fits {c : Char} (h : (Segment.plain c).Fits rest)
    (heq : c :: rest = segment.text ++ rest') : Segment.plain c = segment ∧ rest = rest' := by
  cases segment with
  | plain c' => simpa [Segment.text] using heq
  | closed k body =>
    refine absurd ?_ (h k)
    rw [heq]
    simp [Segment.text]
  | unclosed k body =>
    refine absurd ?_ (h k)
    rw [heq]
    simp [Segment.text]

theorem fits_unique (h : segment.Fits rest) (h' : segment'.Fits rest')
    (heq : segment.text ++ rest = segment'.text ++ rest') : segment = segment' ∧ rest = rest' := by
  cases segment with
  | plain c => exact eq_plain_of_fits h heq
  | closed k body =>
    cases segment' with
    | plain c =>
      obtain ⟨hsegment, hrest⟩ := eq_plain_of_fits h' heq.symm
      exact ⟨hsegment.symm, hrest.symm⟩
    | closed k' body' =>
      simp only [Segment.text, List.append_assoc] at heq
      obtain ⟨rfl, hbody⟩ := Kind.eq_of_opening heq
      obtain ⟨rfl, rfl⟩ := Kind.closed_unique h.1 h.2 h'.1 h'.2 hbody
      exact ⟨rfl, rfl⟩
    | unclosed k' body' =>
      obtain ⟨hopen, rfl⟩ := h'
      simp only [Segment.text, List.append_assoc, List.append_nil] at heq
      obtain ⟨rfl, hbody⟩ := Kind.eq_of_opening heq
      exact (Kind.closed_of_unclosed h.2 hopen hbody).elim
  | unclosed k body =>
    obtain ⟨hopen, rfl⟩ := h
    cases segment' with
    | plain c =>
      obtain ⟨hsegment, hrest⟩ := eq_plain_of_fits h' heq.symm
      exact ⟨hsegment.symm, hrest.symm⟩
    | closed k' body' =>
      simp only [Segment.text, List.append_assoc, List.append_nil] at heq
      obtain ⟨rfl, hbody⟩ := Kind.eq_of_opening heq.symm
      exact (Kind.closed_of_unclosed h'.2 hopen hbody).elim
    | unclosed k' body' =>
      obtain ⟨_, rfl⟩ := h'
      simp only [Segment.text, List.append_nil] at heq
      obtain ⟨rfl, rfl⟩ := Kind.eq_of_opening heq
      exact ⟨rfl, rfl⟩

theorem exists_lexes (t : Text) : ∃ segments, Lexes t segments := by
  induction hlength : t.length using Nat.strongRecOn generalizing t with
  | ind n ih =>
    by_cases hempty : t = []
    · subst t
      exact ⟨[], .nil⟩
    · obtain ⟨segment, rest, hfits, rfl⟩ := exists_fits hempty
      have hpos := List.length_pos_iff.mpr segment.text_ne_nil
      obtain ⟨segments, hsegments⟩ := ih rest.length (by simp at hlength; omega) rest rfl
      exact ⟨segment :: segments, .cons hfits hsegments⟩

theorem lexes_unique {segments' : List Segment} (h : Lexes t segments) (h' : Lexes t segments') :
    segments' = segments := by
  induction h generalizing segments' with
  | nil =>
    generalize hempty : ([] : Text) = t at h'
    cases h' with
    | nil => rfl
    | @cons segment rest segments hfits hrest =>
      exact absurd (List.append_eq_nil_iff.mp hempty.symm).1 segment.text_ne_nil
  | @cons segment rest segments hfits _ ih =>
    generalize heq : segment.text ++ rest = t at h'
    cases h' with
    | nil => exact absurd (List.append_eq_nil_iff.mp heq).1 segment.text_ne_nil
    | @cons segment' rest' segments' hfits' hrest' =>
      obtain ⟨rfl, rfl⟩ := fits_unique hfits hfits' heq
      rw [ih hrest']

theorem flatMap_text (h : Lexes t segments) : segments.flatMap Segment.text = t := by
  induction h with
  | nil => rfl
  | cons _ _ ih => rw [List.flatMap_cons, ih]

theorem strip_of_lexes (h : Lexes t segments) : strip t = segments.flatMap Segment.blanked := by
  induction h with
  | nil => rfl
  | cons hfits _ ih =>
    unfold strip at ih ⊢
    rw [scan_segment hfits, ih, List.flatMap_cons]

end Lexings

/-- A character is kept or blanked, and ends of lines are kept and not made. -/
def Covers (c c' : Char) : Prop :=
  (c' = '\n' ↔ c = '\n') ∧ (c' = '\r' ↔ c = '\r') ∧ (c' = c ∨ c' = ' ')

theorem covers_refl (c : Char) : Covers c c := ⟨.rfl, .rfl, Or.inl rfl⟩

theorem covers_blanked (c : Char) : Covers c (blanked c) := by
  unfold Covers blanked
  by_cases hend : c = '\n' ∨ c = '\r'
  · simp [hend]
  · rw [if_neg hend]
    rw [not_or] at hend
    simp [hend.1, hend.2]

theorem forall₂_covers_blanked (segment : Segment) :
    List.Forall₂ Covers segment.text segment.blanked := by
  have hmap : ∀ t : Text, List.Forall₂ Covers t (t.map blanked) := by
    intro t
    exact List.forall₂_map_right_iff.mpr (List.forall₂_same.mpr fun c _ => covers_blanked c)
  cases segment with
  | plain c => exact .cons (covers_refl c) .nil
  | closed k body => exact hmap _
  | unclosed k body => exact hmap _

theorem covers_of_lexes {t : Text} {segments : List Segment} (h : Lexes t segments) :
    List.Forall₂ Covers t (segments.flatMap Segment.blanked) := by
  induction h with
  | nil => exact .nil
  | @cons segment _ _ _ _ ih => exact List.rel_append (forall₂_covers_blanked segment) ih

/-- Every text is made up of plain characters, comments and literals in exactly one way. Stripping
keeps the plain characters and puts spaces for the rest, so that every character stays in its place,
as it is or as a space, and the ends of lines stay where they are. -/
theorem strip_follows_lexing (t : Text) :
    (∃! segments, Lexes t segments) ∧
    (∃ segments, Lexes t segments ∧ segments.flatMap Segment.text = t ∧
      strip t = segments.flatMap Segment.blanked) ∧
    (strip t).length = t.length ∧ List.Forall₂ Covers t (strip t) := by
  obtain ⟨segments, hlexes⟩ := exists_lexes t
  have hstrip := strip_of_lexes hlexes
  have hcovers : List.Forall₂ Covers t (strip t) := hstrip ▸ covers_of_lexes hlexes
  refine ⟨⟨segments, hlexes, fun _ h' => lexes_unique hlexes h'⟩,
    ⟨segments, hlexes, flatMap_text hlexes, hstrip⟩, hcovers.length_eq.symm, hcovers⟩

/-- The mark that opens a block comment does not close it. -/
example : strip "x /*/ y */ '\\'' z".toList = "x               z".toList := by decide

end LabGrader.Source
