import LabGrader.Proofs.Folder.Home

/-!
# Ways to a directory

Making a directory makes those that lead to it as well, and what was made stays if the rest cannot be
made. All that is added are directories, at places that the path leads to, or its parent, or the
parent of that, and so on. No file is added or changed, and what could be read still reads the same.
-/

namespace LabGrader

/-- A path and those above it: its parent, the parent of that, and so on. -/
inductive Path.Above : Path → Path → Prop where
  | self (p : Path) : Above p p
  | parent {p up q : Path} : p.parent? = some up → Above up q → Above p q

namespace Folder

open LabGrader.Path

variable {d d' d₁ : Folder} {l x : Location} {p q : Path}

/-- At most directories have been added. -/
structure Widened (d d' : Folder) : Prop where
  entryAt? : ∀ x, d'.entryAt? x = d.entryAt? x ∨
    (d.entryAt? x = none ∧ d'.entryAt? x = some .directory)
  working : d'.working = d.working
  refusal? : d'.refusal? = d.refusal?

/-- At most directories have been added, each where `p` or a path above it leads to. -/
structure WidenedTo (p : Path) (d d' : Folder) : Prop where
  entryAt? : ∀ x, d'.entryAt? x = d.entryAt? x ∨
    (d.entryAt? x = none ∧ d'.entryAt? x = some .directory ∧
      ∃ q, Above p q ∧ d'.locate q = .ok x)
  working : d'.working = d.working
  refusal? : d'.refusal? = d.refusal?

theorem WidenedTo.widened (h : WidenedTo p d d') : Widened d d' :=
  ⟨fun x => (h.entryAt? x).imp_right fun hnew => ⟨hnew.1, hnew.2.1⟩, h.working, h.refusal?⟩

theorem WidenedTo.refl (p : Path) (d : Folder) : WidenedTo p d d := ⟨fun _ => Or.inl rfl, rfl, rfl⟩

theorem Widened.keeps (h : Widened d d') : d.Keeps d' where
  isDirectory x hx := by
    rw [isDirectory_iff] at hx ⊢
    rcases h.entryAt? x with hsame | ⟨hnone, _⟩
    · exact hsame.trans hx
    · rw [hx] at hnone
      cases hnone
  working := h.working
  refusal? := h.refusal?

theorem Widened.file_iff (h : Widened d d') (x : Location) (content : Bytes) :
    d'.entryAt? x = some (.file content) ↔ d.entryAt? x = some (.file content) := by
  rcases h.entryAt? x with hsame | ⟨hnone, hnew⟩
  · rw [hsame]
  · simp [hnone, hnew]

theorem Keeps.locate (h : d.Keeps d') (hq : d.locate q = .ok l) : d'.locate q = .ok l := by
  obtain ⟨hcheck, hwalk⟩ := locate_iff.mp hq
  exact locate_iff.mpr ⟨hcheck, h.start q ▸ walk_mono h hwalk⟩

theorem readAt_iff {content : Bytes} :
    d.readAt l = .ok content ↔ d.entryAt? l = some (.file content) ∧ d.refusal? .read l = none := by
  unfold readAt
  cases d.entryAt? l with
  | none => simp
  | some e =>
    cases d.refusal? .read l with
    | some cause => simp
    | none => cases e <;> simp

theorem read_iff {content : Bytes} :
    d.read q = .ok content ↔
      ∃ l, d.locate q = .ok l ∧ d.entryAt? l = some (.file content) ∧
        d.refusal? .read l = none := by
  unfold read
  cases d.locate q with
  | error cause => simp [bind, Except.bind]
  | ok l => simp [bind, Except.bind, readAt_iff]

theorem Widened.read (h : Widened d d') {content : Bytes} (hq : d.read q = .ok content) :
    d'.read q = .ok content := by
  obtain ⟨l, hlocate, hfile, hallowed⟩ := read_iff.mp hq
  refine read_iff.mpr ⟨l, h.keeps.locate hlocate, (h.file_iff l content).mpr hfile, ?_⟩
  rw [h.refusal?, hallowed]

theorem makeDirectory_widenedTo (h : d.makeDirectory p = .ok d') : WidenedTo p d d' := by
  obtain ⟨l, hl, hnone, rfl, hdir, hway⟩ := walk_of_makeDirectory h
  have hlocate : (d.put l .directory).locate p = .ok l :=
    locate_iff.mpr ⟨(makeDirectory_spec h).1, walk_of_dropEmpty hway hdir⟩
  refine ⟨?_, rfl, rfl⟩
  intro x
  rw [entryAt?_put d hl]
  by_cases hx : x = l
  · subst x
    exact Or.inr ⟨hnone, if_pos rfl, p, .self p, hlocate⟩
  · exact Or.inl (if_neg hx)

theorem WidenedTo.trans {d₁ d₂ d₃ : Folder} (h : WidenedTo p d₁ d₂) (h' : WidenedTo p d₂ d₃) :
    WidenedTo p d₁ d₃ := by
  refine ⟨?_, h'.working.trans h.working, h'.refusal?.trans h.refusal?⟩
  intro x
  rcases h.entryAt? x with hx | ⟨hnone, hdir, q, hq, hlocate⟩ <;>
    rcases h'.entryAt? x with hx' | ⟨hnone', hdir', hnew⟩
  · exact Or.inl (hx'.trans hx)
  · exact Or.inr ⟨hx ▸ hnone', hdir', hnew⟩
  · -- the way to the new directory stays open while more are made
    exact Or.inr ⟨hnone, hx'.trans hdir, q, hq, h'.widened.keeps.locate hlocate⟩
  · simp [hdir] at hnone'

theorem WidenedTo.below {up : Path} (hup : p.parent? = some up) (h : WidenedTo up d d') :
    WidenedTo p d d' where
  entryAt? x := (h.entryAt? x).imp_right fun ⟨hnone, hdir, q, hq, hlocate⟩ =>
    ⟨hnone, hdir, q, .parent hup hq, hlocate⟩
  working := h.working
  refusal? := h.refusal?

theorem isDirectoryPath_of_ite {cause : SystemError}
    (h : (if d.isDirectoryPath p then .ok () else .error cause : Except SystemError Unit) = .ok ()) :
    d.isDirectoryPath p = true := by
  split at h
  · assumption
  · cases h

/-- The ways to make a directory: there is nothing to do, or, perhaps with the way to it made as far
as it can be, it is made now or not at all. -/
theorem makeWayFrom_cases {fuel : Nat} {result : Except SystemError Unit}
    (h : makeWayFrom (fuel + 1) d p = (d', result)) :
    (p.isEmpty = true ∧ d' = d) ∨
    (p.isEmpty = false ∧ ∃ d₁,
      (d₁ = d ∨ ∃ up r, p.parent? = some up ∧ makeWayFrom fuel d up = (d₁, r)) ∧
      (d₁.makeDirectory p = .ok d' ∨ (d' = d₁ ∧ (result = .ok () → d₁.isDirectoryPath p = true)))) := by
  unfold makeWayFrom at h
  split at h
  · rename_i hempty
    cases h
    exact Or.inl ⟨hempty, rfl⟩
  · rename_i hempty
    refine Or.inr ⟨by simpa using hempty, ?_⟩
    split at h
    · rename_i made hmade
      cases h
      exact ⟨d, Or.inl rfl, Or.inl hmade⟩
    · rename_i cause hcause
      split at h
      · split at h
        · cases h
          exact ⟨d, Or.inl rfl, Or.inr ⟨rfl, fun hok => nomatch hok⟩⟩
        · rename_i up hparent
          split at h
          · rename_i hup
            cases h
            exact ⟨d', Or.inr ⟨up, _, hparent, hup⟩, Or.inr ⟨rfl, fun hok => nomatch hok⟩⟩
          · rename_i d₁ hup
            refine ⟨d₁, Or.inr ⟨up, _, hparent, hup⟩, ?_⟩
            split at h
            · rename_i made hmade
              cases h
              exact Or.inl hmade
            · cases h
              exact Or.inr ⟨rfl, isDirectoryPath_of_ite⟩
      · cases h
        exact ⟨d, Or.inl rfl, Or.inr ⟨rfl, isDirectoryPath_of_ite⟩⟩

theorem makeWayFrom_widenedTo {fuel : Nat} {result : Except SystemError Unit}
    (h : makeWayFrom fuel d p = (d', result)) : WidenedTo p d d' := by
  induction fuel generalizing p d' result with
  | zero =>
    cases h
    exact .refl p d
  | succ fuel ih =>
    rcases makeWayFrom_cases h with ⟨_, rfl⟩ | ⟨_, d₁, hup, hmade⟩
    · exact .refl p d'
    · have hfirst : WidenedTo p d d₁ := by
        rcases hup with rfl | ⟨up, r, hparent, hup⟩
        · exact .refl p d₁
        · exact (ih hup).below hparent
      rcases hmade with hmade | ⟨rfl, _⟩
      · exact hfirst.trans (makeDirectory_widenedTo hmade)
      · exact hfirst

theorem makeWay_widenedTo {result : Except SystemError Unit} (h : d.makeWay p = (d', result)) :
    WidenedTo p d d' := makeWayFrom_widenedTo h

theorem makeWay_of_makeDirectories (h : d.makeDirectories p = .ok d') :
    d.makeWay p = (d', .ok ()) := by
  unfold makeDirectories at h
  split at h
  · rename_i made hmade
    cases h
    exact hmade
  · cases h

theorem makeDirectories_error_iff {cause : SystemError} :
    d.makeDirectories p = .error cause ↔ (d.makeWay p).2 = .error cause := by
  unfold makeDirectories
  obtain ⟨made, result⟩ := d.makeWay p
  cases result <;> simp

/-- A folder that was made, or was there, is a home for files, and nothing else has changed. -/
theorem makeDirectories_spec (h : d.makeDirectories p = .ok d') :
    (∃ l, d'.Home p l) ∧ Widened d d' := by
  have hway := makeWay_of_makeDirectories h
  refine ⟨?_, (makeWay_widenedTo hway).widened⟩
  rcases makeWayFrom_cases hway with ⟨hempty, rfl⟩ | ⟨hp, d₁, _, hmade⟩
  · have htext : p.text = [] := List.isEmpty_iff.mp hempty
    have hpieces : p.homePieces = [] := by simp [homePieces, htext]
    have hstart : d'.start p = d'.working := start_of_relative (by simp [isAbsolute, htext])
    refine ⟨d'.working, ?_, isDirectory_above (List.prefix_refl _)⟩
    rw [hpieces, hstart]
    rfl
  · rcases hmade with hmade | ⟨rfl, hdir⟩
    · exact home_of_makeDirectory hp hmade
    · exact home_of_isDirectoryPath hp (hdir rfl)

end Folder

end LabGrader
