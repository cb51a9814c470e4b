import LabGrader.Batch.Preparation
import LabGrader.Proofs.Breakdown.Names
import LabGrader.Proofs.Folder.Way

/-!
# Plans

A plan has a task for each submission that can be read and a failure for each that cannot, both in
the order of the paths. The names of its tasks are those claimed in that order: they differ from
each other, and each is the name of a file.
-/

namespace LabGrader

namespace Submission

theorem path_of_read {d : Folder} {p : Path} {s : Submission} (h : read d p = .ok s) :
    s.path = p := by
  unfold read at h
  split at h
  · cases h
  · cases h
    rfl

theorem noSlash_identity (s : Submission) : '/' ∉ s.identity := noSlash_identityOf _

end Submission

namespace Batch

/-- The failure of a submission that cannot be read. -/
def unread? (d : Folder) (p : Path) : Option Ungraded :=
  match Submission.read d p with
  | .error e => some ⟨p, none, e.message⟩
  | .ok _ => none

def Task.path (t : Task) : Path := t.submission.path

namespace Plan

variable {d : Folder}

theorem ofPathsFrom_error {p : Path} {e : GradingError} (h : Submission.read d p = .error e)
    (taken : List Text) (rest : List Path) :
    ofPathsFrom d taken (p :: rest) =
      { tasks := (ofPathsFrom d taken rest).tasks
        unread := ⟨p, none, e.message⟩ :: (ofPathsFrom d taken rest).unread } := by
  simp only [ofPathsFrom, h]

theorem ofPathsFrom_ok {p : Path} {s : Submission} (h : Submission.read d p = .ok s)
    (taken : List Text) (rest : List Path) :
    ofPathsFrom d taken (p :: rest) =
      { tasks := ⟨s, (Breakdown.claim taken s.identity p).1⟩ ::
          (ofPathsFrom d ((Breakdown.claim taken s.identity p).1 :: taken) rest).tasks
        unread := (ofPathsFrom d ((Breakdown.claim taken s.identity p).1 :: taken) rest).unread } := by
  simp only [ofPathsFrom, h, Breakdown.claim_snd]

theorem unread_ofPathsFrom (taken : List Text) (paths : List Path) :
    (ofPathsFrom d taken paths).unread = paths.filterMap (unread? d) := by
  induction paths generalizing taken with
  | nil => rfl
  | cons p rest ih =>
    cases h : Submission.read d p with
    | error e => simp [ofPathsFrom_error h, unread?, h, ih]
    | ok s => simp [ofPathsFrom_ok h, unread?, h, ih]

theorem submissions_ofPathsFrom (taken : List Text) (paths : List Path) :
    (ofPathsFrom d taken paths).tasks.map Task.submission =
      paths.filterMap fun p => (Submission.read d p).toOption := by
  induction paths generalizing taken with
  | nil => rfl
  | cons p rest ih =>
    cases h : Submission.read d p with
    | error e => simp [ofPathsFrom_error h, h, Except.toOption, ih]
    | ok s => simp [ofPathsFrom_ok h, h, Except.toOption, ih]

theorem read_of_mem_ofPathsFrom {taken : List Text} {paths : List Path} {t : Task}
    (h : t ∈ (ofPathsFrom d taken paths).tasks) :
    Submission.read d t.path = .ok t.submission := by
  have hmem : t.submission ∈ paths.filterMap fun q => (Submission.read d q).toOption := by
    rw [← submissions_ofPathsFrom taken]
    exact List.mem_map_of_mem h
  obtain ⟨q, _, hq⟩ := List.mem_filterMap.mp hmem
  cases hread : Submission.read d q with
  | error e => simp [hread, Except.toOption] at hq
  | ok submission =>
    obtain rfl : submission = t.submission := by simpa [hread, Except.toOption] using hq
    rw [Task.path, Submission.path_of_read hread, hread]

theorem perm_paths_ofPathsFrom (taken : List Text) (paths : List Path) :
    ((ofPathsFrom d taken paths).tasks.map Task.path ++
      (ofPathsFrom d taken paths).unread.map Ungraded.path).Perm paths := by
  induction paths generalizing taken with
  | nil => exact .refl _
  | cons p rest ih =>
    cases h : Submission.read d p with
    | error e =>
      rw [ofPathsFrom_error h]
      exact List.perm_middle.trans ((ih taken).cons p)
    | ok s =>
      rw [ofPathsFrom_ok h]
      simp only [List.map_cons, List.cons_append, Task.path, Submission.path_of_read h]
      exact (ih _).cons p

theorem breakdowns_ofPathsFrom (taken : List Text) (paths : List Path) :
    (ofPathsFrom d taken paths).tasks.map Task.breakdown =
      Breakdown.claimAll taken
        ((ofPathsFrom d taken paths).tasks.map fun t => (t.submission.identity, t.path)) := by
  induction paths generalizing taken with
  | nil => rfl
  | cons p rest ih =>
    cases h : Submission.read d p with
    | error e =>
      rw [ofPathsFrom_error h]
      exact ih taken
    | ok s =>
      rw [ofPathsFrom_ok h]
      simp only [List.map_cons, Breakdown.claimAll_cons, Task.path, Submission.path_of_read h]
      rw [ih]
      rfl

theorem isFileName_of_mem_ofPathsFrom {taken : List Text} {paths : List Path} {t : Task}
    (h : t ∈ (ofPathsFrom d taken paths).tasks) : Path.IsFileName t.breakdown := by
  induction paths generalizing taken with
  | nil => exact absurd h List.not_mem_nil
  | cons p rest ih =>
    cases hread : Submission.read d p with
    | error e =>
      rw [ofPathsFrom_error hread] at h
      exact ih h
    | ok s =>
      rw [ofPathsFrom_ok hread] at h
      rcases List.mem_cons.mp h with rfl | hmem
      · exact Breakdown.claim_isFileName taken s.noSlash_identity p
      · exact ih hmem

end Plan

section Prepared
variable {settings : Settings} {paths : List Path} {d : Folder} {p : Prepared}

theorem prepare_ok (h : prepare settings paths d = .ok p) :
    d.makeDirectories settings.breakdownFolder = .ok p.folder ∧
      p.plan = Plan.ofPaths p.folder paths := by
  unfold prepare begin at h
  unfold Folder.makeDirectories
  generalize d.makeWay settings.breakdownFolder = way at h ⊢
  obtain ⟨made, result⟩ := way
  cases result with
  | error cause => cases h
  | ok u =>
    cases h
    exact ⟨rfl, rfl⟩

theorem prepare_home (h : prepare settings paths d = .ok p) :
    ∃ home, p.folder.Home settings.breakdownFolder home :=
  (Folder.makeDirectories_spec (prepare_ok h).1).1

theorem prepare_isFileName (h : prepare settings paths d = .ok p) :
    ∀ t ∈ p.plan.tasks, Path.IsFileName t.breakdown := by
  intro t ht
  rw [(prepare_ok h).2] at ht
  exact Plan.isFileName_of_mem_ofPathsFrom ht

theorem prepare_breakdowns (h : prepare settings paths d = .ok p) :
    p.plan.tasks.map Task.breakdown =
      Breakdown.claimAll [] (p.plan.tasks.map fun t => (t.submission.identity, t.path)) := by
  rw [(prepare_ok h).2]
  exact Plan.breakdowns_ofPathsFrom [] paths

theorem prepare_breakdowns_nodup (h : prepare settings paths d = .ok p) :
    (p.plan.tasks.map Task.breakdown).Nodup := by
  rw [prepare_breakdowns h]
  exact Breakdown.claimAll_nodup [] _

theorem prepare_read (h : prepare settings paths d = .ok p) {t : Task} (ht : t ∈ p.plan.tasks) :
    Submission.read p.folder t.path = .ok t.submission := by
  rw [(prepare_ok h).2] at ht
  exact Plan.read_of_mem_ofPathsFrom ht

theorem prepare_submissions (h : prepare settings paths d = .ok p) :
    p.plan.tasks.map Task.submission =
      paths.filterMap fun q => (Submission.read p.folder q).toOption := by
  rw [(prepare_ok h).2]
  exact Plan.submissions_ofPathsFrom [] paths

theorem prepare_unread (h : prepare settings paths d = .ok p) :
    p.plan.unread = paths.filterMap (unread? p.folder) := by
  rw [(prepare_ok h).2]
  exact Plan.unread_ofPathsFrom [] paths

theorem prepare_paths (h : prepare settings paths d = .ok p) :
    (p.plan.tasks.map Task.path ++ p.plan.unread.map Ungraded.path).Perm paths := by
  rw [(prepare_ok h).2]
  exact Plan.perm_paths_ofPathsFrom [] paths

end Prepared

end Batch

end LabGrader
