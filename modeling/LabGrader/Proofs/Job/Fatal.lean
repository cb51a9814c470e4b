import LabGrader.Job
import LabGrader.Proofs.Assignment.NormalForm
import LabGrader.Proofs.Batch.Plan

/-!
# What a job fails for

A job fails as a whole because of its inputs alone: the scoring sheet, the assignment, the search for
submissions, or the folder for the breakdowns. Each of the four steps before the first question fails
for its own causes and for no others.
-/

namespace LabGrader

section Steps
variable {ε α β : Type} {x : Except ε α} {next : α → Except ε β} {b : β} {e : ε}

theorem bind_ok_iff : (x >>= next) = .ok b ↔ ∃ a, x = .ok a ∧ next a = .ok b := by
  cases x with
  | error e => simp [bind, Except.bind]
  | ok a => simp [bind, Except.bind]

theorem bind_error_iff :
    (x >>= next) = .error e ↔ x = .error e ∨ ∃ a, x = .ok a ∧ next a = .error e := by
  cases x with
  | error e => simp [bind, Except.bind]
  | ok a => simp [bind, Except.bind]

end Steps

section Inputs
variable {d : Folder} {p : Path} {t : Text} {e : GradingError}

theorem readSheet_error_iff :
    readSheet d p = .error e ↔
      (∃ cause, d.readText p = .error cause ∧ .sheetUnreadable p cause = e) ∨
      ∃ t, d.readText p = .ok t ∧ (∀ c ∈ t, Text.isBlank c = true) ∧ .sheetBlank p = e := by
  unfold readSheet
  cases d.readText p with
  | error cause => simp
  | ok t =>
    simp only [← Text.trim_eq_nil_iff]
    by_cases hempty : Text.trim t = []
    · simp [hempty]
    · simp [hempty]

theorem assignmentRead_error_iff :
    Assignment.read d p = .error e ↔
      (∃ cause, d.readText p = .error cause ∧ .assignmentUnreadable p cause = e) ∨
      ∃ t, d.readText p = .ok t ∧ (∀ c ∈ t, Text.isBlank c = true) ∧ .assignmentBlank p = e := by
  unfold Assignment.read
  cases d.readText p with
  | error cause => simp
  | ok t =>
    simp only [← Assignment.ofText?_eq_none_iff]
    cases hassignment : Assignment.ofText? t with
    | none => simp [hassignment]
    | some a => simp [hassignment]

end Inputs

namespace Job

variable {j : Job} {settings : Settings} {d : Folder} {e : GradingError}

theorem files_error_iff :
    j.files d = .error e ↔
      (∃ error, d.filesWith extension j.submissions = .error error ∧
        .badSearch j.submissions error = e) ∨
      (d.filesWith extension j.submissions = .ok [] ∧ .nothingFound j.submissions = e) := by
  unfold files
  cases d.filesWith extension j.submissions with
  | error error => simp
  | ok paths => cases paths <;> simp

/-- The causes for which a job fails as a whole, each with the error that reports it. -/
inductive Fatal (j : Job) (settings : Settings) (d : Folder) : GradingError → Prop where
  | sheetUnreadable {cause : SystemError} : d.readText j.sheet = .error cause →
      Fatal j settings d (.sheetUnreadable j.sheet cause)
  | sheetBlank {t : Text} : d.readText j.sheet = .ok t → (∀ c ∈ t, Text.isBlank c = true) →
      Fatal j settings d (.sheetBlank j.sheet)
  | assignmentUnreadable {cause : SystemError} : d.readText j.assignment = .error cause →
      Fatal j settings d (.assignmentUnreadable j.assignment cause)
  | assignmentBlank {t : Text} : d.readText j.assignment = .ok t →
      (∀ c ∈ t, Text.isBlank c = true) → Fatal j settings d (.assignmentBlank j.assignment)
  | badSearch {error : Pattern.Error} : d.filesWith extension j.submissions = .error error →
      Fatal j settings d (.badSearch j.submissions error)
  | nothingFound : d.filesWith extension j.submissions = .ok [] →
      Fatal j settings d (.nothingFound j.submissions)
  | breakdownFolderNotMade {cause : SystemError} :
      d.makeDirectories settings.breakdownFolder = .error cause →
      Fatal j settings d (.breakdownFolderNotMade settings.breakdownFolder cause)

theorem batchPrepare_error_iff {paths : List Path} :
    Batch.prepare settings paths d = .error e ↔
      ∃ cause, d.makeDirectories settings.breakdownFolder = .error cause ∧
        .breakdownFolderNotMade settings.breakdownFolder cause = e := by
  unfold Batch.prepare Batch.begin Folder.makeDirectories
  obtain ⟨made, result⟩ := d.makeWay settings.breakdownFolder
  cases result with
  | error cause => simp
  | ok u => simp

theorem prepare_eq (j : Job) (settings : Settings) (d : Folder) :
    j.prepare settings d = do
      let sheet ← readSheet d j.sheet
      let a ← Assignment.read d j.assignment
      let paths ← j.files d
      let p ← Batch.prepare settings paths d
      return (a.instructions sheet, p) := by
  simp only [prepare, instructions, read, bind_assoc, pure_bind]

theorem prepare_ok {instructions : Text} {p : Batch.Prepared}
    (h : j.prepare settings d = .ok (instructions, p)) :
    ∃ sheet a paths, readSheet d j.sheet = .ok sheet ∧ Assignment.read d j.assignment = .ok a ∧
      j.files d = .ok paths ∧ Batch.prepare settings paths d = .ok p ∧
      instructions = a.instructions sheet := by
  rw [prepare_eq] at h
  obtain ⟨sheet, hsheet, h⟩ := bind_ok_iff.mp h
  obtain ⟨a, hassignment, h⟩ := bind_ok_iff.mp h
  obtain ⟨paths, hfiles, h⟩ := bind_ok_iff.mp h
  obtain ⟨p', hbatch, h⟩ := bind_ok_iff.mp h
  cases h
  exact ⟨sheet, a, paths, hsheet, hassignment, hfiles, hbatch, rfl⟩

theorem fatal_of_prepare_error (h : j.prepare settings d = .error e) : j.Fatal settings d e := by
  rw [prepare_eq] at h
  rcases bind_error_iff.mp h with hsheet | ⟨sheet, -, h⟩
  · rcases readSheet_error_iff.mp hsheet with ⟨cause, hread, rfl⟩ | ⟨t, hread, hblank, rfl⟩
    · exact .sheetUnreadable hread
    · exact .sheetBlank hread hblank
  rcases bind_error_iff.mp h with hassignment | ⟨a, -, h⟩
  · rcases assignmentRead_error_iff.mp hassignment with
      ⟨cause, hread, rfl⟩ | ⟨t, hread, hblank, rfl⟩
    · exact .assignmentUnreadable hread
    · exact .assignmentBlank hread hblank
  rcases bind_error_iff.mp h with hfiles | ⟨paths, -, h⟩
  · rcases files_error_iff.mp hfiles with ⟨error, hsearch, rfl⟩ | ⟨hnothing, rfl⟩
    · exact .badSearch hsearch
    · exact .nothingFound hnothing
  rcases bind_error_iff.mp h with hbatch | ⟨p, -, h⟩
  · obtain ⟨cause, hmade, rfl⟩ := batchPrepare_error_iff.mp hbatch
    exact .breakdownFolderNotMade hmade
  · cases h

theorem prepare_error_of_fatal (h : j.Fatal settings d e) :
    ∃ e', j.prepare settings d = .error e' := by
  cases hprepare : j.prepare settings d with
  | error e' => exact ⟨e', rfl⟩
  | ok r =>
    obtain ⟨sheet, a, paths, hsheet, hassignment, hfiles, hbatch, -⟩ := prepare_ok hprepare
    cases h with
    | sheetUnreadable hread =>
      rw [readSheet_error_iff.mpr (.inl ⟨_, hread, rfl⟩)] at hsheet
      cases hsheet
    | sheetBlank hread hblank =>
      rw [readSheet_error_iff.mpr (.inr ⟨_, hread, hblank, rfl⟩)] at hsheet
      cases hsheet
    | assignmentUnreadable hread =>
      rw [assignmentRead_error_iff.mpr (.inl ⟨_, hread, rfl⟩)] at hassignment
      cases hassignment
    | assignmentBlank hread hblank =>
      rw [assignmentRead_error_iff.mpr (.inr ⟨_, hread, hblank, rfl⟩)] at hassignment
      cases hassignment
    | badSearch hsearch =>
      rw [files_error_iff.mpr (.inl ⟨_, hsearch, rfl⟩)] at hfiles
      cases hfiles
    | nothingFound hnothing =>
      rw [files_error_iff.mpr (.inr ⟨hnothing, rfl⟩)] at hfiles
      cases hfiles
    | breakdownFolderNotMade hmade =>
      rw [batchPrepare_error_iff.mpr ⟨_, hmade, rfl⟩] at hbatch
      cases hbatch

theorem exists_prepare_error_iff :
    (∃ e, j.prepare settings d = .error e) ↔ ∃ e, j.Fatal settings d e :=
  ⟨fun ⟨e, h⟩ => ⟨e, fatal_of_prepare_error h⟩, fun ⟨_, h⟩ => prepare_error_of_fatal h⟩

end Job

end LabGrader
