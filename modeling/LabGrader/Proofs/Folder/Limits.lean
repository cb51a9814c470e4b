import LabGrader.Proofs.Folder.Way
import LabGrader.Proofs.Text.Bytes

/-!
# Names that are too long

Where the path of a folder leaves room for the longest name, the only thing that can be wrong with the
name of a file in it is its own length.
-/

namespace LabGrader

namespace Folder

open LabGrader.Path

variable {d d' : Folder} {p : Path} {name : Text} {l : Location}

theorem checkPath_eq_ok_iff :
    checkPath p = .ok () ↔
      '\x00' ∉ p.text ∧ p.text ≠ [] ∧ Text.byteCount p.text < pathLimit := by
  unfold checkPath
  split
  · rename_i hzero
    have hmem : '\x00' ∈ p.text := by simpa using hzero
    simp [hmem]
  · rename_i hzero
    have hnot : '\x00' ∉ p.text := by simpa using hzero
    split
    · rename_i hempty
      simp [List.isEmpty_iff.mp hempty]
    · rename_i hempty
      have hne : p.text ≠ [] := fun htext => hempty (List.isEmpty_iff.mpr htext)
      simp [hnot, hne]

theorem checkPath_eq (hzero : '\x00' ∉ p.text) (hne : p.text ≠ []) :
    checkPath p = if pathLimit ≤ Text.byteCount p.text then .error .nameTooLong else .ok () := by
  have hany : ¬ (p.text.any (· = '\x00')) = true := by simpa using hzero
  have hempty : ¬ p.isEmpty = true := mt List.isEmpty_iff.mp hne
  rw [checkPath, if_neg hany, if_neg hempty]

/-- The path of a folder that has been made, or was there, is in order. The empty one leads nowhere
else. -/
theorem checkPath_of_makeDirectories (h : d.makeDirectories p = .ok d') :
    p.text = [] ∨ checkPath p = .ok () := by
  rcases makeWayFrom_cases (makeWay_of_makeDirectories h) with ⟨hempty, -⟩ | ⟨-, d₁, -, hmade⟩
  · exact Or.inl (List.isEmpty_iff.mp hempty)
  · refine Or.inr ?_
    rcases hmade with hmade | ⟨-, hdir⟩
    · exact (makeDirectory_spec hmade).1
    · have hthere := hdir rfl
      unfold isDirectoryPath at hthere
      split at hthere
      · rename_i l hlocate
        exact (locate_iff.mp hlocate).1
      · cases hthere

theorem byteCount_join_le (p : Path) (name : Text) :
    Text.byteCount (p.join name).text ≤ Text.byteCount p.text + 1 + Text.byteCount name := by
  have hslash : '/'.utf8Size = 1 := by decide
  unfold join
  split
  · change Text.byteCount name ≤ _
    omega
  · split
    · change Text.byteCount (p.text ++ name) ≤ _
      rw [Text.byteCount_append]
      omega
    · change Text.byteCount (p.text ++ '/' :: name) ≤ _
      rw [Text.byteCount_append, Text.byteCount_cons, hslash]
      omega

theorem mem_join {c : Char} (h : c ∈ (p.join name).text) : c ∈ p.text ∨ c = '/' ∨ c ∈ name := by
  unfold join at h
  split at h
  · exact Or.inr (Or.inr h)
  · split at h
    · exact (List.mem_append.mp h).imp_right Or.inr
    · exact (List.mem_append.mp h).imp_right List.mem_cons.mp

theorem suffix_join (p : Path) (name : Text) : name <:+ (p.join name).text := by
  unfold join
  split
  · exact List.suffix_refl name
  · split
    · exact List.suffix_append _ name
    · exact (List.suffix_cons '/' name).trans (List.suffix_append _ _)

/-- The longest name that is allowed still fits behind the path. -/
def Roomy (p : Path) : Prop := Text.byteCount p.text + 1 + nameLimit < pathLimit

/-- A file in a folder whose path is in order can be refused for nothing but the length of its path. -/
theorem checkPath_join (hp : p.text = [] ∨ checkPath p = .ok ()) (hname : IsFileName name)
    (hzero : '\x00' ∉ name) :
    checkPath (p.join name) =
      if pathLimit ≤ Text.byteCount (p.join name).text then .error .nameTooLong else .ok () := by
  have hfolder : '\x00' ∉ p.text := by
    rcases hp with hempty | hok
    · simp [hempty]
    · exact (checkPath_eq_ok_iff.mp hok).1
  apply checkPath_eq
  · intro hmem
    rcases mem_join hmem with h | h | h
    · exact hfolder h
    · revert h
      decide
    · exact hzero h
  · intro hempty
    have hsuffix := suffix_join p name
    rw [hempty] at hsuffix
    have hidle := hname.notIdle
    rw [List.suffix_nil.mp hsuffix] at hidle
    cases hidle

theorem nameFault?_of_roomy (hp : p.text = [] ∨ checkPath p = .ok ()) (hroom : Roomy p)
    (hname : IsFileName name) (hzero : '\x00' ∉ name) (hallowed : d.refusal? .enter l = none) :
    d.nameFault? p l name =
      if nameLimit < Text.byteCount name then some .nameTooLong else none := by
  unfold nameFault?
  rw [checkPath_join hp hname hzero, hallowed]
  by_cases hlong : nameLimit < Text.byteCount name
  · -- the name is refused with the path or on its own, for the same cause
    rw [if_pos hlong]
    by_cases hpath : pathLimit ≤ Text.byteCount (p.join name).text
    · rw [if_pos hpath]
    · rw [if_neg hpath]
  · have hlength := byteCount_join_le p name
    have hshort : ¬ pathLimit ≤ Text.byteCount (p.join name).text := by
      unfold Roomy at hroom
      omega
    rw [if_neg hshort]

/-- Nothing keeps files from being written in the folder `p`, as far as the system is concerned. -/
def Writable (d : Folder) (p : Path) : Prop :=
  ∀ l, d.Home p l → d.refusal? .enter l = none ∧ ∀ name, d.refusal? .write (l ++ [name]) = none

end Folder

end LabGrader
