import LabGrader.Breakdown
import LabGrader.Proofs.Folder.Home
import LabGrader.Proofs.Text.Lines
import LabGrader.Submission
import Mathlib.Data.List.Nodup

/-!
# Names of breakdown files are new and stay in their folder

A claimed name is none of those taken before, since the candidates for it differ from each other and
are one more than the taken names. It is made of the author's name, the stem of the file, digits and
the suffix. For an author taken from a submission it holds no slash, so it is the name of a file.
-/

namespace LabGrader

theorem Text.ofNat_injective : Function.Injective Text.ofNat := by
  intro m n h
  have hvalue := congrArg (fun digits => Nat.ofDigitChars 10 digits 0) h
  simpa [Text.ofNat, Nat.ofDigitChars_ten_toDigits] using hvalue

namespace Path

variable {p : Path} {piece name : Text} {c : Char}

theorem mem_text_of_mem_pieces (h : piece ∈ p.pieces) (hc : c ∈ piece) :
    c ∈ p.text ∧ c ≠ '/' := by
  have general : ∀ t : Text, ∀ piece ∈ t.splitOn '/', ∀ c ∈ piece, c ∈ t ∧ c ≠ '/' := by
    intro t
    induction t with
    | nil => simp
    | cons d rest ih =>
      intro piece hpiece c hc
      rw [List.splitOn_cons_eq_if_modifyHead] at hpiece
      by_cases hd : d = '/'
      · rw [if_pos (beq_iff_eq.mpr hd)] at hpiece
        rcases List.mem_cons.mp hpiece with rfl | hmem
        · cases hc
        · exact (ih piece hmem c hc).imp_left (List.mem_cons_of_mem d)
      · rw [if_neg (by simpa using hd)] at hpiece
        cases hsplit : rest.splitOn '/' with
        | nil => exact absurd hsplit (List.splitOn_ne_nil _ _)
        | cons first others =>
          rw [hsplit] at hpiece ih
          rcases List.mem_cons.mp hpiece with rfl | hmem
          · rcases List.mem_cons.mp hc with rfl | hc
            · exact ⟨List.mem_cons_self, hd⟩
            · exact (ih first List.mem_cons_self c hc).imp_left (List.mem_cons_of_mem d)
          · exact (ih piece (List.mem_cons_of_mem _ hmem) c hc).imp_left (List.mem_cons_of_mem d)
  exact general p.text piece h c hc

theorem mem_pieces_of_fileName? (h : p.fileName? = some name) : name ∈ p.pieces := by
  unfold fileName? at h
  split at h
  · rename_i n hlast
    cases h
    have hmem : Component.name name ∈ p.components := List.mem_of_getLast? hlast
    have hmoves : Component.name name ∈
        (p.pieces.filter fun piece => !isIdle piece).map Component.ofPiece := by
      unfold components at hmem
      simp only at hmem
      split at hmem
      · simpa using hmem
      · split at hmem
        · simpa using hmem
        · exact hmem
    obtain ⟨piece, hpiece, heq⟩ := List.mem_map.mp hmoves
    unfold Component.ofPiece at heq
    split at heq
    · cases heq
    · cases heq
      exact (List.mem_filter.mp hpiece).1
  · cases h

theorem mem_of_mem_splitName (h : c ∈ (splitName name).1) : c ∈ name := by
  unfold splitName at h
  simp only at h
  split at h
  · rename_i front hfront
    split at h
    · exact h
    · have hmem : c ∈ name.reverse.dropWhile (· ≠ '.') := by
        rw [hfront]
        exact List.mem_cons_of_mem _ (List.mem_reverse.mp h)
      exact List.mem_reverse.mp ((List.dropWhile_sublist _).mem hmem)
  · exact h

end Path

theorem Submission.isWord_or_isBlank_of_mem_identityOf {rows : List Text} {c : Char}
    (h : c ∈ identityOf rows) : (isWord c || Text.isBlank c) = true := by
  unfold identityOf at h
  split at h
  · simp at h
  · exact (List.mem_filter.mp (Text.mem_of_mem_trim h)).2

theorem Submission.noSlash_identityOf (rows : List Text) : '/' ∉ identityOf rows := by
  intro h
  exact absurd (isWord_or_isBlank_of_mem_identityOf h) (by decide)

namespace Breakdown

section Fresh
variable {taken : List Text} {base name : Text}

theorem candidate_injective (base : Text) : Function.Injective (candidate base) := by
  intro m n h
  by_cases hm : m = 0 <;> by_cases hn : n = 0
  · omega
  · have hlength := congrArg List.length h
    simp [candidate, hm, hn] at hlength
    omega
  · have hlength := congrArg List.length h
    simp [candidate, hm, hn] at hlength
    omega
  · simp only [candidate, if_neg hm, if_neg hn, List.append_assoc, List.append_cancel_left_eq,
      List.cons_append, List.cons.injEq, true_and, List.append_cancel_right_eq] at h
    have := Text.ofNat_injective h
    omega

theorem exists_candidate_notMem (taken : List Text) (base : Text) :
    ∃ name ∈ (List.range (taken.length + 1)).map (candidate base), name ∉ taken := by
  by_contra hall
  push Not at hall
  have hnodup : ((List.range (taken.length + 1)).map (candidate base)).Nodup :=
    List.nodup_range.map (candidate_injective base)
  have hle := hnodup.length_le_of_subset hall
  simp only [List.length_map, List.length_range] at hle
  omega

/-- The search comes to a free candidate, and those before it are taken. -/
theorem exists_firstFree_eq (taken : List Text) (base : Text) :
    ∃ n ≤ taken.length, firstFree taken base = candidate base n ∧ candidate base n ∉ taken ∧
      ∀ m < n, candidate base m ∈ taken := by
  unfold firstFree
  simp only
  cases hfind : ((List.range (taken.length + 1)).map (candidate base)).find?
      fun name => !taken.contains name with
  | none =>
    obtain ⟨name, hmem, hfree⟩ := exists_candidate_notMem taken base
    have := List.find?_eq_none.mp hfind name hmem
    simp [hfree] at this
  | some name =>
    obtain ⟨hfree, n, hn, rfl, hbefore⟩ := List.find?_eq_some_iff_getElem.mp hfind
    rw [List.length_map, List.length_range] at hn
    simp only [List.getElem_map, List.getElem_range] at hfree hbefore ⊢
    refine ⟨n, by omega, rfl, by simpa using hfree, ?_⟩
    intro m hm
    simpa using hbefore m hm

/-- The names for a submission in the order in which they are tried. -/
def wanted (identity : Text) (p : Path) : Nat → Text
  | 0 => plainName identity p
  | n + 1 =>
    candidate (dropSuffixes suffix (plainName identity p).length (plainName identity p) ++
      '-' :: stemOf p) n

/-- The first wanted name that is free is claimed, at the latest when all taken names are tried. -/
theorem exists_claim_eq (taken : List Text) (identity : Text) (p : Path) :
    ∃ n ≤ taken.length + 1, (claim taken identity p).1 = wanted identity p n ∧
      wanted identity p n ∉ taken ∧ ∀ m < n, wanted identity p m ∈ taken := by
  unfold claim
  simp only
  split
  · rename_i hplain
    obtain ⟨n, hn, hname, hfree, hbefore⟩ := exists_firstFree_eq taken
      (dropSuffixes suffix (plainName identity p).length (plainName identity p) ++ '-' :: stemOf p)
    refine ⟨n + 1, by omega, hname, hfree, ?_⟩
    intro m hm
    cases m with
    | zero => exact List.contains_iff_mem.mp hplain
    | succ m => exact hbefore m (by omega)
  · rename_i hplain
    refine ⟨0, Nat.zero_le _, rfl, mt List.contains_iff_mem.mpr hplain, ?_⟩
    intro m hm
    exact absurd hm m.not_lt_zero

theorem claim_fst_notMem (taken : List Text) (identity : Text) (p : Path) :
    (claim taken identity p).1 ∉ taken := by
  obtain ⟨n, -, hname, hfree, -⟩ := exists_claim_eq taken identity p
  rwa [hname]

theorem claim_snd (taken : List Text) (identity : Text) (p : Path) :
    (claim taken identity p).2 = (claim taken identity p).1 :: taken := rfl

theorem claimAll_cons (taken : List Text) (identity : Text) (p : Path)
    (rest : List (Text × Path)) :
    claimAll taken ((identity, p) :: rest) =
      (claim taken identity p).1 :: claimAll ((claim taken identity p).1 :: taken) rest := rfl

theorem claimAll_notMem {items : List (Text × Path)} (h : name ∈ claimAll taken items) :
    name ∉ taken := by
  induction items generalizing taken with
  | nil => simp [claimAll] at h
  | cons item rest ih =>
    obtain ⟨identity, p⟩ := item
    rw [claimAll_cons] at h
    rcases List.mem_cons.mp h with rfl | hmem
    · exact claim_fst_notMem taken identity p
    · exact fun htaken => ih hmem (List.mem_cons_of_mem _ htaken)

theorem claimAll_nodup (taken : List Text) (items : List (Text × Path)) :
    (claimAll taken items).Nodup := by
  induction items generalizing taken with
  | nil => exact List.nodup_nil
  | cons item rest ih =>
    obtain ⟨identity, p⟩ := item
    rw [claimAll_cons]
    refine List.nodup_cons.mpr ⟨?_, ih _⟩
    intro hmem
    exact claimAll_notMem hmem List.mem_cons_self

end Fresh

section Characters
variable {identity base t : Text} {p : Path} {taken : List Text} {c : Char} {n : Nat}

theorem mem_stemOf (h : c ∈ stemOf p) : (c ∈ p.text ∧ c ≠ '/') ∨ c ∈ "submission".toList := by
  unfold stemOf Path.stem? at h
  cases hname : p.fileName? with
  | none =>
    rw [hname] at h
    exact Or.inr h
  | some name =>
    rw [hname] at h
    have hpiece := Path.mem_pieces_of_fileName? hname
    exact Or.inl (Path.mem_text_of_mem_pieces hpiece (Path.mem_of_mem_splitName h))

theorem noSlash_stemOf (p : Path) : '/' ∉ stemOf p := by
  intro h
  rcases mem_stemOf h with ⟨-, hslash⟩ | hword
  · exact hslash rfl
  · revert hword
    decide

theorem mem_plainName (h : c ∈ plainName identity p) :
    c ∈ identity ∨ c ∈ stemOf p ∨ c ∈ suffix := by
  unfold plainName at h
  rcases List.mem_append.mp h with hauthor | hsuffix
  · split at hauthor
    · exact Or.inr (Or.inl hauthor)
    · exact Or.inl (List.mem_filter.mp hauthor).1
  · exact Or.inr (Or.inr hsuffix)

theorem mem_of_mem_dropSuffixes {ending : Text} {fuel : Nat} (h : c ∈ dropSuffixes ending fuel t) :
    c ∈ t := by
  induction fuel generalizing t with
  | zero => exact h
  | succ fuel ih =>
    unfold dropSuffixes at h
    split at h
    · rename_i rest hrest
      rw [Text.eq_append_of_dropSuffix? hrest]
      exact List.mem_append_left _ (ih h)
    · exact h

theorem mem_candidate (h : c ∈ candidate base n) :
    c ∈ base ∨ c.isDigit = true ∨ c ∈ suffix := by
  unfold candidate at h
  split at h
  · exact (List.mem_append.mp h).imp_right Or.inr
  · rcases List.mem_append.mp h with hfront | hsuffix
    · rcases List.mem_append.mp hfront with hbase | hnumber
      · exact Or.inl hbase
      · rcases List.mem_cons.mp hnumber with rfl | hdigit
        · exact Or.inr (Or.inr List.mem_cons_self)
        · exact Or.inr (Or.inl (Nat.isDigit_of_mem_toDigits (by decide) (by decide) hdigit))
    · exact Or.inr (Or.inr hsuffix)

theorem mem_wanted (h : c ∈ wanted identity p n) :
    c ∈ identity ∨ c ∈ stemOf p ∨ c.isDigit = true ∨ c ∈ suffix := by
  have hplain : c ∈ plainName identity p →
      c ∈ identity ∨ c ∈ stemOf p ∨ c.isDigit = true ∨ c ∈ suffix := by
    intro hmem
    exact (mem_plainName hmem).imp_right (Or.imp_right Or.inr)
  cases n with
  | zero => exact hplain h
  | succ n =>
    rcases mem_candidate h with hbase | hrest
    · rcases List.mem_append.mp hbase with hfront | hstem
      · exact hplain (mem_of_mem_dropSuffixes hfront)
      · rcases List.mem_cons.mp hstem with rfl | hstem
        · exact Or.inr (Or.inr (Or.inr List.mem_cons_self))
        · exact Or.inr (Or.inl hstem)
    · exact Or.inr (Or.inr hrest)

theorem mem_claim (h : c ∈ (claim taken identity p).1) :
    c ∈ identity ∨ c ∈ stemOf p ∨ c.isDigit = true ∨ c ∈ suffix := by
  obtain ⟨n, -, hname, -, -⟩ := exists_claim_eq taken identity p
  exact mem_wanted (hname ▸ h)

theorem suffix_candidate (base : Text) (n : Nat) : suffix <:+ candidate base n := by
  unfold candidate
  split <;> exact List.suffix_append _ _

theorem suffix_wanted (identity : Text) (p : Path) (n : Nat) : suffix <:+ wanted identity p n := by
  cases n with
  | zero => exact List.suffix_append _ _
  | succ n => exact suffix_candidate _ n

theorem suffix_claim (taken : List Text) (identity : Text) (p : Path) :
    suffix <:+ (claim taken identity p).1 := by
  obtain ⟨n, -, hname, -, -⟩ := exists_claim_eq taken identity p
  rw [hname]
  exact suffix_wanted identity p n

/-- A name that ends in the suffix and holds no slash is the name of a file. -/
theorem isFileName_of_suffix {name : Text} (hslash : '/' ∉ name) (h : suffix <:+ name) :
    Path.IsFileName name := by
  have hlength : 2 < name.length := by
    have hlong : 2 < suffix.length := by decide
    have := h.length_le
    omega
  refine ⟨hslash, ?_, ?_⟩
  · cases name with
    | nil => simp at hlength
    | cons c rest =>
      have hdot : c :: rest ≠ ['.'] := by
        intro heq
        simp [heq] at hlength
      simp [Path.isIdle, hdot]
  · intro heq
    simp [heq] at hlength

theorem noSlash_claim (taken : List Text) (h : '/' ∉ identity) (p : Path) :
    '/' ∉ (claim taken identity p).1 := by
  intro hmem
  rcases mem_claim hmem with hidentity | hstem | hdigit | hsuffix
  · exact h hidentity
  · exact noSlash_stemOf p hstem
  · revert hdigit
    decide
  · revert hsuffix
    decide

theorem claim_isFileName (taken : List Text) (h : '/' ∉ identity) (p : Path) :
    Path.IsFileName (claim taken identity p).1 :=
  isFileName_of_suffix (noSlash_claim taken h p) (suffix_claim taken identity p)

end Characters

end Breakdown

end LabGrader
