import LabGrader.Proofs.Breakdown.Names

/-!
# Claims go on until a name is free

A submission has an endless list of names that it may take. The first that is free is found after
as many steps as there are taken names, at the latest, and it depends on nothing but which names are
taken. So claims one after another give different names, each settled before the next.
-/

namespace LabGrader.Breakdown

section Claims
variable {taken taken' : List Text} {identity : Text} {p : Path}

/-- The order in which names were taken, and how often, makes no difference. -/
theorem claim_congr (h : ∀ name, name ∈ taken' ↔ name ∈ taken) :
    (claim taken' identity p).1 = (claim taken identity p).1 := by
  obtain ⟨n, -, hname, hfree, hbefore⟩ := exists_claim_eq taken identity p
  obtain ⟨n', -, hname', hfree', hbefore'⟩ := exists_claim_eq taken' identity p
  rcases Nat.lt_trichotomy n n' with hlt | rfl | hgt
  · exact absurd ((h _).mp (hbefore' n hlt)) hfree
  · rw [hname, hname']
  · exact absurd ((h _).mpr (hbefore n' hgt)) hfree'

theorem length_claimAll (taken : List Text) (items : List (Text × Path)) :
    (claimAll taken items).length = items.length := by
  induction items generalizing taken with
  | nil => rfl
  | cons item rest ih =>
    obtain ⟨identity, p⟩ := item
    rw [claimAll_cons, List.length_cons, List.length_cons, ih]

theorem claimAll_append (taken : List Text) (items more : List (Text × Path)) :
    claimAll taken (items ++ more) =
      claimAll taken items ++ claimAll ((claimAll taken items).reverse ++ taken) more := by
  induction items generalizing taken with
  | nil => rfl
  | cons item rest ih =>
    obtain ⟨identity, p⟩ := item
    rw [List.cons_append, claimAll_cons, claimAll_cons, ih]
    simp

end Claims

section Confined
variable {identity : Text} {p : Path} {taken : List Text}

/-- The name of a breakdown, and of one file in a folder: it neither goes on in another folder nor ends
early, and it is none of the two names that every folder has. -/
structure Confined (name : Text) : Prop where
  noSlash : '/' ∉ name
  noZero : '\x00' ∉ name
  notCurrent : name ≠ ['.']
  notParent : name ≠ ['.', '.']
  suffixed : suffix <:+ name

theorem noZero_wanted (hidentity : '\x00' ∉ identity) (hp : '\x00' ∉ p.text) (n : Nat) :
    '\x00' ∉ wanted identity p n := by
  intro hmem
  rcases mem_wanted hmem with hzero | hstem | hdigit | hsuffix
  · exact hidentity hzero
  · rcases mem_stemOf hstem with ⟨hzero, -⟩ | hword
    · exact hp hzero
    · revert hword
      decide
  · revert hdigit
    decide
  · revert hsuffix
    decide

theorem noZero_claim (hidentity : '\x00' ∉ identity) (hp : '\x00' ∉ p.text) :
    '\x00' ∉ (claim taken identity p).1 := by
  obtain ⟨n, -, hname, -, -⟩ := exists_claim_eq taken identity p
  rw [hname]
  exact noZero_wanted hidentity hp n

theorem noZero_identityOf (rows : List Text) : '\x00' ∉ Submission.identityOf rows := by
  intro h
  exact absurd (Submission.isWord_or_isBlank_of_mem_identityOf h) (by decide)

theorem confined_claim (taken : List Text) (rows : List Text) (hp : '\x00' ∉ p.text) :
    Confined (claim taken (Submission.identityOf rows) p).1 := by
  have hfile := claim_isFileName taken (Submission.noSlash_identityOf rows) p
  constructor
  case noSlash => exact hfile.noSlash
  case noZero => exact noZero_claim (noZero_identityOf rows) hp
  case notCurrent =>
    intro hdot
    have hidle := hfile.notIdle
    rw [hdot] at hidle
    cases hidle
  case notParent => exact hfile.notUp
  case suffixed => exact suffix_claim taken _ p

end Confined

/-- A claim finds the first wanted name that is free, and takes that name and no other. The names of
a row of claims are new and differ from each other, and later claims do not change them. For an
author taken from a text, the file with the name lies in the folder of breakdowns itself. -/
theorem claims_new_and_confined (taken : List Text) :
    (∀ identity p,
      (∃ n ≤ taken.length + 1, (claim taken identity p).1 = wanted identity p n ∧
        ∀ m < n, wanted identity p m ∈ taken) ∧
      (claim taken identity p).1 ∉ taken ∧
      (∀ name, name ∈ (claim taken identity p).2 ↔
        name = (claim taken identity p).1 ∨ name ∈ taken) ∧
      ∀ taken', (∀ name, name ∈ taken' ↔ name ∈ taken) →
        (claim taken' identity p).1 = (claim taken identity p).1) ∧
    (∀ items, (claimAll taken items).length = items.length ∧ (claimAll taken items).Nodup ∧
      (∀ name ∈ claimAll taken items, name ∉ taken) ∧
      ∀ more, (claimAll taken (items ++ more)).take items.length = claimAll taken items) ∧
    ∀ (text name : Text) (p : Path), '\x00' ∉ p.text →
      name = (claim taken (Submission.identityOf (Text.rows text)) p).1 →
      Confined name ∧
      (∀ folder : Path, (folder.join name).components = folder.components ++ [.name name]) ∧
      ∀ (d d' : Folder) (folder : Path) (l : Location) (content : Bytes), d.Home folder l →
        d.write (folder.join name) content = .ok d' → d' = d.put (l ++ [name]) (.file content) := by
  refine ⟨?_, ?_, ?_⟩
  · intro identity p
    obtain ⟨n, hn, hname, -, hbefore⟩ := exists_claim_eq taken identity p
    refine ⟨⟨n, hn, hname, hbefore⟩, claim_fst_notMem taken identity p, ?_, ?_⟩
    · intro name
      rw [claim_snd, List.mem_cons]
    · exact fun taken' => claim_congr
  · intro items
    refine ⟨length_claimAll taken items, claimAll_nodup taken items, ?_, ?_⟩
    · exact fun name => claimAll_notMem
    · intro more
      rw [claimAll_append, ← length_claimAll taken items, List.take_left]
  · rintro text name p hp rfl
    have hfile := claim_isFileName taken (Submission.noSlash_identityOf (Text.rows text)) p
    refine ⟨confined_claim taken _ hp, fun folder => folder.components_join hfile, ?_⟩
    intro d d' folder l content hhome hwrite
    exact hhome.eq_put_of_write hfile hwrite

namespace Sample

def taken : List Text :=
  ["Ada-GradingBreakdown.txt".toList, "Ada-A-GradingBreakdown.txt".toList]

def text : Text := "// A./da\n".toList

def path : Path := .ofString "x/A.java"

def folder : Folder := .ofList [(.ofString "out", .directory)]

def name : Text := "Ada-A-2-GradingBreakdown.txt".toList

def home : Location := Folder.workplace ++ ["out".toList]

end Sample

theorem claims_new_and_confined_numbered :
    '\x00' ∉ Sample.path.text ∧
    Sample.name = (claim Sample.taken (Submission.identityOf (Text.rows Sample.text)) Sample.path).1 ∧
    Sample.folder.Home (.ofString "out") Sample.home ∧
    Confined Sample.name ∧
    Sample.folder.write ((Path.ofString "out").join Sample.name) [] =
      .ok (Sample.folder.put (Sample.home ++ [Sample.name]) (.file [])) := by
  have hp : '\x00' ∉ Sample.path.text := by decide
  have hname : Sample.name =
      (claim Sample.taken (Submission.identityOf (Text.rows Sample.text)) Sample.path).1 := by
    decide +kernel
  have hhome : Sample.folder.Home (.ofString "out") Sample.home := ⟨rfl, rfl⟩
  obtain ⟨hconfined, -, hinside⟩ :=
    (claims_new_and_confined Sample.taken).2.2 Sample.text Sample.name Sample.path hp hname
  refine ⟨hp, hname, hhome, hconfined, ?_⟩
  cases hwrite : Sample.folder.write ((Path.ofString "out").join Sample.name) [] with
  | error cause => cases hwrite
  | ok d => rw [hinside _ _ _ _ _ hhome hwrite]

end LabGrader.Breakdown
