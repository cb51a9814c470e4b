import LabGrader.Proofs.Breakdown.Names

/-!
# Names for an author who comes again

The first breakdown of an author is named after the author alone. For later ones the stem of the
file is added, and from the third on a number. The stem is added to the author's name with all
suffixes dropped from its end, so the names are those that are listed here except for an author whose
name itself ends in the suffix. Such a name can only be the stem of a file: what is read from a text
has no suffix in it.
-/

namespace LabGrader.Breakdown

section Copies
variable {ending t : Text} {fuel : Nat}

def copies (ending : Text) (k : Nat) : Text := (List.replicate k ending).flatten

theorem copies_succ (ending : Text) (k : Nat) :
    copies ending (k + 1) = copies ending k ++ ending := by
  simp only [copies, List.replicate_succ', List.flatten_append, List.flatten_singleton]

/-- With enough fuel all copies of a suffix are dropped. -/
theorem exists_copies_of_dropSuffixes (hending : ending ≠ []) (h : t.length ≤ fuel) :
    ∃ k, t = dropSuffixes ending fuel t ++ copies ending k ∧
      ¬ ending <:+ dropSuffixes ending fuel t := by
  induction fuel generalizing t with
  | zero =>
    obtain rfl : t = [] := List.eq_nil_of_length_eq_zero (Nat.le_zero.mp h)
    exact ⟨0, rfl, fun hsuffix => hending (List.suffix_nil.mp hsuffix)⟩
  | succ fuel ih =>
    rw [dropSuffixes]
    split
    · rename_i rest hrest
      have ht := Text.eq_append_of_dropSuffix? hrest
      have hlength : rest.length ≤ fuel := by
        have hpos := List.length_pos_iff.mpr hending
        rw [ht, List.length_append] at h
        omega
      obtain ⟨k, hk, hbare⟩ := ih hlength
      refine ⟨k + 1, ?_, hbare⟩
      rw [copies_succ, ← List.append_assoc, ← hk, ht]
    · rename_i hnone
      exact ⟨0, (List.append_nil t).symm, Text.dropSuffix?_eq_none_iff.mp hnone⟩

end Copies

/-- What a breakdown is named after. -/
def author (identity : Text) (p : Path) : Text :=
  if (Text.dense identity).isEmpty then stemOf p else Text.dense identity

/-- What the stem is added to. -/
def bare (identity : Text) (p : Path) : Text :=
  dropSuffixes suffix (plainName identity p).length (plainName identity p)

/-- The number in a name; the first name with a stem has none. -/
def numeral : Nat → Text
  | 0 => []
  | n + 1 => '-' :: Text.ofNat (n + 2)

/-- The name of an author, then that of `front` with the stem, then the same with 2, 3 and so on. -/
def listed (author front stem : Text) : Nat → Text
  | 0 => author ++ suffix
  | n + 1 => front ++ '-' :: stem ++ numeral n ++ suffix

/-- A name is the first of a sequence that is not taken. -/
def FirstFree (taken : List Text) (names : Nat → Text) (name : Text) : Prop :=
  ∃ n, name = names n ∧ names n ∉ taken ∧ ∀ m < n, names m ∈ taken

section Author
variable {taken : List Text} {identity front : Text} {p : Path} {k : Nat}

theorem plainName_eq (identity : Text) (p : Path) :
    plainName identity p = author identity p ++ suffix := rfl

/-- The suffix of the plain name is among those that are dropped, so `k` more stand in the author's
name. -/
theorem exists_author_eq (identity : Text) (p : Path) :
    ∃ k, author identity p = bare identity p ++ copies suffix k ∧
      ¬ suffix <:+ bare identity p := by
  have hsuffix : suffix ≠ [] := by decide
  obtain ⟨k, hk, hbare⟩ :=
    exists_copies_of_dropSuffixes hsuffix (le_refl (plainName identity p).length)
  refine ⟨k - 1, ?_, hbare⟩
  cases k with
  | zero =>
    have hplain : plainName identity p = bare identity p := hk.trans (List.append_nil _)
    have hends : suffix <:+ plainName identity p := List.suffix_append _ _
    rw [hplain] at hends
    exact absurd hends hbare
  | succ k =>
    have hplain : author identity p ++ suffix = (bare identity p ++ copies suffix k) ++ suffix := by
      rw [List.append_assoc, ← copies_succ]
      exact hk
    exact List.append_cancel_right hplain

theorem prefix_bare (identity : Text) (p : Path) : bare identity p <+: author identity p := by
  obtain ⟨k, hauthor, -⟩ := exists_author_eq identity p
  rw [hauthor]
  exact List.prefix_append _ _

theorem suffix_author_iff (h : author identity p = front ++ copies suffix k)
    (hfront : ¬ suffix <:+ front) : suffix <:+ author identity p ↔ k ≠ 0 := by
  cases k with
  | zero =>
    have hsame : author identity p = front := h.trans (List.append_nil front)
    simp [hsame, hfront]
  | succ k =>
    have hends : suffix <:+ author identity p := by
      rw [h, copies_succ, ← List.append_assoc]
      exact List.suffix_append _ _
    simp [hends]

theorem wanted_eq_listed (identity : Text) (p : Path) :
    wanted identity p = listed (author identity p) (bare identity p) (stemOf p) := by
  funext n
  rcases n with _ | _ | n
  · rfl
  · simp [wanted, candidate, listed, numeral, bare]
  · simp [wanted, candidate, listed, numeral, bare]

theorem firstFree_bare (taken : List Text) (identity : Text) (p : Path) :
    FirstFree taken (listed (author identity p) (bare identity p) (stemOf p))
      (claim taken identity p).1 := by
  obtain ⟨n, -, hname, hfree, hbefore⟩ := exists_claim_eq taken identity p
  rw [wanted_eq_listed] at hname hfree hbefore
  exact ⟨n, hname, hfree, hbefore⟩

end Author

section Letters

theorem count_copies (k : Nat) : (copies suffix k).count 'G' = k := by
  induction k with
  | zero => rfl
  | succ k ih =>
    have hone : suffix.count 'G' = 1 := by decide
    rw [copies_succ, List.count_append, ih, hone]

theorem count_numeral (n : Nat) : (numeral n).count 'G' = 0 := by
  apply List.count_eq_zero.mpr
  intro hmem
  cases n with
  | zero => cases hmem
  | succ n =>
    rcases List.mem_cons.mp hmem with hdash | hdigit
    · revert hdash
      decide
    · have hisDigit : 'G'.isDigit = true :=
        Nat.isDigit_of_mem_toDigits (by decide) (by decide) hdigit
      revert hisDigit
      decide

/-- A name with a stem tells how often the suffix ends what the stem was added to: numbers have no
letters, so they cannot make up for a suffix. -/
theorem eq_zero_of_listed_eq {author front stem : Text} {k m n : Nat}
    (h : listed author front stem (m + 1) =
      listed author (front ++ copies suffix k) stem (n + 1)) : k = 0 := by
  have hcount := congrArg (List.count 'G') h
  simp only [listed, List.count_append, List.count_cons, count_copies, count_numeral] at hcount
  omega

end Letters

section Repeats
variable {taken : List Text} {identity : Text} {p : Path}

/-- The names with a stem are the listed ones exactly if no suffix had to be dropped. -/
theorem firstFree_author_iff :
    FirstFree taken (listed (author identity p) (author identity p) (stemOf p))
        (claim taken identity p).1 ↔
      ¬ (author identity p ++ suffix ∈ taken ∧ suffix <:+ author identity p) := by
  obtain ⟨k, hauthor, hbare⟩ := exists_author_eq identity p
  have hends := suffix_author_iff hauthor hbare
  obtain ⟨n, hname, hfree, hbefore⟩ := firstFree_bare taken identity p
  constructor
  · rintro ⟨n', hname', hfree', -⟩ ⟨htaken, hsuffix⟩
    -- the plain name is taken, so both names have a stem
    cases n with
    | zero => exact hfree htaken
    | succ n =>
      cases n' with
      | zero => exact hfree' htaken
      | succ n' =>
        have hsame := hname.symm.trans hname'
        rw [hauthor] at hsame
        exact hends.mp hsuffix (eq_zero_of_listed_eq hsame)
  · intro hnot
    by_cases htaken : author identity p ++ suffix ∈ taken
    · have hk : k = 0 := not_not.mp (mt hends.mpr fun hsuffix => hnot ⟨htaken, hsuffix⟩)
      have hsame : author identity p = bare identity p := by
        rw [hauthor, hk]
        exact List.append_nil _
      rw [← hsame] at hname hfree hbefore
      exact ⟨n, hname, hfree, hbefore⟩
    · obtain rfl : n = 0 := by
        by_contra hn
        exact htaken (hbefore 0 (Nat.pos_of_ne_zero hn))
      exact ⟨0, hname, hfree, fun m hm => absurd hm m.not_lt_zero⟩

theorem not_suffix_author {rows : List Text} (h : Text.dense (Submission.identityOf rows) ≠ []) :
    ¬ suffix <:+ author (Submission.identityOf rows) p := by
  intro hsuffix
  have hdash : '-' ∈ author (Submission.identityOf rows) p := hsuffix.mem (by decide)
  rw [author, if_neg (by simpa using h)] at hdash
  have hmem : '-' ∈ Submission.identityOf rows := (Text.mem_dense_iff.mp hdash).1
  exact absurd (Submission.isWord_or_isBlank_of_mem_identityOf hmem) (by decide)

end Repeats

/-- A claim is for the first free name of the list in which the stem is added to the author's name
without the suffixes at its end. It is for the first free name of the list for the whole of the
author's name unless that ends in the suffix and its plain name is taken. For an author who is named
in the text it always is. -/
theorem first_listed_name_claimed (taken : List Text) (identity : Text) (p : Path) :
    (∃ front k, author identity p = front ++ copies suffix k ∧ ¬ suffix <:+ front ∧
      FirstFree taken (listed (author identity p) front (stemOf p)) (claim taken identity p).1) ∧
    (FirstFree taken (listed (author identity p) (author identity p) (stemOf p))
        (claim taken identity p).1 ↔
      ¬ (author identity p ++ suffix ∈ taken ∧ suffix <:+ author identity p)) ∧
    ∀ text, identity = Submission.identityOf (Text.rows text) → Text.dense identity ≠ [] →
      FirstFree taken (listed (Text.dense identity) (Text.dense identity) (stemOf p))
        (claim taken identity p).1 := by
  refine ⟨?_, firstFree_author_iff, ?_⟩
  · obtain ⟨k, hauthor, hbare⟩ := exists_author_eq identity p
    exact ⟨bare identity p, k, hauthor, hbare, firstFree_bare taken identity p⟩
  · rintro text rfl hnamed
    have hauthor : author (Submission.identityOf (Text.rows text)) p =
        Text.dense (Submission.identityOf (Text.rows text)) := if_neg (by simpa using hnamed)
    rw [← hauthor]
    exact firstFree_author_iff.mpr fun h => not_suffix_author hnamed h.2

namespace Sample

def scanner : Text := "import java.util.Scanner;\n".toList

def scannerName : Text := "importjavautilScanner".toList

/-- A file that is called like the breakdown of another one. -/
def breakdownSource : Path := .ofString "A-GradingBreakdown.txt.java"

end Sample

theorem first_listed_name_claimed_third :
    Text.dense (Submission.identityOf (Text.rows Sample.scanner)) ≠ [] ∧
    FirstFree [Sample.scannerName ++ "-GradingBreakdown.txt".toList,
        Sample.scannerName ++ "-B-GradingBreakdown.txt".toList]
      (listed Sample.scannerName Sample.scannerName ['B'])
      (Sample.scannerName ++ "-B-2-GradingBreakdown.txt".toList) := by
  have hdense : Text.dense (Submission.identityOf (Text.rows Sample.scanner)) =
      Sample.scannerName := by decide +kernel
  have hnamed : Text.dense (Submission.identityOf (Text.rows Sample.scanner)) ≠ [] := by
    rw [hdense]
    decide
  obtain ⟨-, -, hlisted⟩ := first_listed_name_claimed
    [Sample.scannerName ++ "-GradingBreakdown.txt".toList,
      Sample.scannerName ++ "-B-GradingBreakdown.txt".toList]
    (Submission.identityOf (Text.rows Sample.scanner)) (.ofString "b/B.java")
  have hfirst := hlisted Sample.scanner rfl hnamed
  rw [hdense] at hfirst
  have hclaim : (claim [Sample.scannerName ++ "-GradingBreakdown.txt".toList,
      Sample.scannerName ++ "-B-GradingBreakdown.txt".toList]
      (Submission.identityOf (Text.rows Sample.scanner)) (.ofString "b/B.java")).1 =
      Sample.scannerName ++ "-B-2-GradingBreakdown.txt".toList := by decide +kernel
  rw [hclaim] at hfirst
  exact ⟨hnamed, hfirst⟩

/-- A second file without an author and with the suffix in its stem gets a name in which the stem
stands once without the suffix. -/
theorem stem_with_suffix_shortened :
    author [] Sample.breakdownSource = "A-GradingBreakdown.txt".toList ∧
    (claim ["A-GradingBreakdown.txt-GradingBreakdown.txt".toList] [] Sample.breakdownSource).1 =
      "A-A-GradingBreakdown.txt-GradingBreakdown.txt".toList ∧
    ¬ FirstFree ["A-GradingBreakdown.txt-GradingBreakdown.txt".toList]
      (listed (author [] Sample.breakdownSource) (author [] Sample.breakdownSource)
        (stemOf Sample.breakdownSource))
      (claim ["A-GradingBreakdown.txt-GradingBreakdown.txt".toList] [] Sample.breakdownSource).1 := by
  refine ⟨by decide +kernel, by decide +kernel, ?_⟩
  rw [firstFree_author_iff, not_not]
  decide +kernel

end LabGrader.Breakdown
