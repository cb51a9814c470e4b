import LabGrader.Folder.Pattern

/-!
# Patterns of plain text

A character that is no wildcard stands for itself. A text of such characters is read as the pattern
that admits that text alone; with a star in front it admits the names that end with the text.
-/

namespace LabGrader.Pattern

variable {t front name : Text} {i fuel : Nat} {slash : Bool}

/-- A text in which no character is a wildcard. -/
def Plain (t : Text) : Prop := ∀ c ∈ t, c ≠ '?' ∧ c ≠ '*' ∧ c ≠ '['

instance (t : Text) : Decidable (Plain t) := List.decidableBAll _ t

theorem Plain.mono (h : Plain t) (hsub : front ⊆ t) : Plain front := fun c hc => h c (hsub hc)

theorem plain_cons {c : Char} : Plain (c :: t) ↔ (c ≠ '?' ∧ c ≠ '*' ∧ c ≠ '[') ∧ Plain t :=
  List.forall_mem_cons

theorem parseFrom_cons {c : Char} (h : c ≠ '?' ∧ c ≠ '*' ∧ c ≠ '[') (rest : Text) :
    parseFrom (fuel + 1) i slash (c :: rest) =
      (parseFrom fuel (i + 1) (c = '/') rest).map (.char c :: ·) := by
  obtain ⟨hany, hstar, hbracket⟩ := h
  rw [parseFrom, if_neg hany, if_neg hstar, if_neg hbracket]
  cases parseFrom fuel (i + 1) (c = '/') rest <;> rfl

theorem parseFrom_plain (h : Plain t) (hfuel : t.length ≤ fuel) :
    parseFrom fuel i slash t = .ok (t.map .char) := by
  induction t generalizing fuel i slash with
  | nil => cases fuel <;> rfl
  | cons c rest ih =>
    cases fuel with
    | zero => cases hfuel
    | succ fuel =>
      obtain ⟨hc, hrest⟩ := plain_cons.mp h
      rw [parseFrom_cons hc, ih hrest (Nat.le_of_succ_le_succ hfuel)]
      rfl

theorem parse_plain (h : Plain t) : parse t = .ok (t.map .char) := parseFrom_plain h (Nat.le_refl _)

/-- A plain text up to a slash is read without an error of its own. -/
theorem parseFrom_append_slash (h : Plain front) {fuel : Nat} {rest : Text} {tokens : List Token}
    (hrest : ∀ i, parseFrom fuel i true rest = .ok tokens) (i : Nat) (slash : Bool) :
    parseFrom (front.length + 1 + fuel) i slash (front ++ '/' :: rest) =
      .ok (front.map .char ++ .char '/' :: tokens) := by
  induction front generalizing i slash with
  | nil =>
    have hslash : '/' ≠ '?' ∧ '/' ≠ '*' ∧ '/' ≠ '[' := by decide
    rw [List.length_nil, Nat.zero_add, Nat.add_comm 1 fuel, List.nil_append, parseFrom_cons hslash]
    rw [show decide ('/' = '/') = true from rfl, hrest]
    rfl
  | cons c front ih =>
    obtain ⟨hc, hfront⟩ := plain_cons.mp h
    have hfuel : (c :: front).length + 1 + fuel = front.length + 1 + fuel + 1 := by
      rw [List.length_cons]
      omega
    rw [hfuel, List.cons_append, parseFrom_cons hc, ih hfront]
    rfl

theorem parseFrom_star (h : Plain t) (hfuel : t.length < fuel) :
    parseFrom fuel i slash ('*' :: t) = .ok (.anyText :: t.map .char) := by
  cases fuel with
  | zero => cases hfuel
  | succ fuel =>
    have hstars : t.takeWhile (· = '*') = [] ∧ t.dropWhile (· = '*') = t := by
      cases t with
      | nil => exact ⟨rfl, rfl⟩
      | cons c rest =>
        have hc : c ≠ '*' := (plain_cons.mp h).1.2.1
        simp [hc]
    have hrest : parseFrom fuel (i + 1) false t = .ok (t.map .char) :=
      parseFrom_plain h (Nat.le_of_lt_succ hfuel)
    simp only [parseFrom, hstars, hrest]
    rfl

theorem parse_star (h : Plain t) : parse ('*' :: t) = .ok (.anyText :: t.map .char) :=
  parseFrom_star h (Nat.lt_succ_self _)

theorem parse_stars : parse ['*', '*'] = .ok [.anyFolders] := rfl

theorem parseFrom_stars_slash (rest : Text) :
    parseFrom (fuel + 1) i true ('*' :: '*' :: '/' :: rest) =
      (parseFrom fuel (i + 3) true rest).map (.anyFolders :: ·) := by
  rw [parseFrom]
  simp only [show '*' ≠ '?' by decide, if_false, if_true]
  change (parseFrom fuel (i + 3) true rest).bind (fun tokens => .ok (.anyFolders :: tokens)) = _
  cases parseFrom fuel (i + 3) true rest <;> rfl

/-- Two stars that fill the space between two slashes, and one star after them. -/
theorem parse_below (hfront : Plain front) (h : Plain t) :
    parse (front ++ '/' :: '*' :: '*' :: '/' :: '*' :: t) =
      .ok (front.map .char ++ .char '/' :: .anyFolders :: .anyText :: t.map .char) := by
  have hrest : ∀ i, parseFrom (t.length + 4) i true ('*' :: '*' :: '/' :: '*' :: t) =
      .ok (.anyFolders :: .anyText :: t.map .char) := by
    intro i
    rw [parseFrom_stars_slash, parseFrom_star h (by omega)]
    rfl
  have hfuel : (front ++ '/' :: '*' :: '*' :: '/' :: '*' :: t).length =
      front.length + 1 + (t.length + 4) := by
    simp only [List.length_append, List.length_cons]
    omega
  rw [parse, hfuel]
  exact parseFrom_append_slash hfront hrest 0 true

theorem literal?_chars (t : Text) : literal? (t.map .char) = some t := by
  induction t with
  | nil => rfl
  | cons c rest ih => rw [List.map_cons, literal?, ih, Option.map_some]

theorem admits_chars : admits (t.map .char) name = true ↔ name = t := by
  induction t generalizing name with
  | nil => simp [admits]
  | cons c rest ih =>
    cases name with
    | nil => simp [admits]
    | cons a name => simp [admits, Token.admits, ih]

theorem mem_suffixes : name ∈ suffixes t ↔ name <:+ t := by
  induction t with
  | nil => simp [suffixes]
  | cons c rest ih => rw [suffixes, List.mem_cons, ih, List.suffix_cons_iff]

theorem admits_star : admits (.anyText :: t.map .char) name = true ↔ t <:+ name := by
  rw [admits, List.any_eq_true]
  constructor
  · rintro ⟨s, hs, hadmits⟩
    rw [← admits_chars.mp hadmits]
    exact mem_suffixes.mp hs
  · intro h
    exact ⟨t, mem_suffixes.mpr h, admits_chars.mpr rfl⟩

end LabGrader.Pattern
