import LabGrader.Proofs.Batch.Refinement

/-!
# Who is named in a failure

A submission that cannot be read has no author. One that could be read is listed with its author,
whether the judge failed or the answer could not be kept. Only a task that broke off has left nothing
but its path: its failure names no author, although there is one.
-/

namespace LabGrader.Batch

variable {settings : Settings} {w : World} {paths : List Path} {d : Folder} {p : Prepared}
  {s : State} {t : Task}

/-- Who wrote the submission at a path, if it can be read. -/
def author? (d : Folder) (q : Path) : Option Text :=
  (Submission.read d q).toOption.map fun s => Submission.identityOf (Text.rows s.text)

namespace World

/-- The judge broke off during the conversation about a task. -/
def Breaks (w : World) (settings : Settings) (t : Task) : Prop :=
  ∃ message, w.last settings t = .panicked message

/-- Whom the failure of a task names. -/
def named? (w : World) (settings : Settings) (t : Task) : Option Text :=
  match w.last settings t with
  | .panicked _ => none
  | _ => some t.submission.identity

def fails (w : World) (settings : Settings) (d : Folder) (t : Task) : Bool :=
  (w.result settings d t).record?.isNone

theorem named?_of_breaks (h : w.Breaks settings t) : w.named? settings t = none := by
  obtain ⟨message, hlast⟩ := h
  simp only [named?, hlast]

theorem named?_of_not_breaks (h : ¬ w.Breaks settings t) :
    w.named? settings t = some t.submission.identity := by
  cases hlast : w.last settings t with
  | answered answer => simp only [named?, hlast]
  | failed e => simp only [named?, hlast]
  | panicked message => exact absurd ⟨message, hlast⟩ h

theorem entry_of_result_failed {u : Ungraded} (h : w.result settings d t = .failed u) :
    u.path = t.path ∧ u.identity = w.named? settings t := by
  unfold result finish at h
  cases hlast : w.last settings t with
  | answered answer =>
    rw [hlast] at h
    change (keep settings t (w.fault t) answer d).2 = .failed u at h
    unfold keep at h
    split at h
    · cases h
      exact ⟨rfl, by simp only [named?, hlast, Task.failed]⟩
    · cases h
  | failed e =>
    rw [hlast] at h
    cases h
    exact ⟨rfl, by simp only [named?, hlast, Task.failed]⟩
  | panicked message =>
    rw [hlast] at h
    cases h
    exact ⟨rfl, by simp only [named?, hlast, Task.lost]⟩

theorem exists_result_of_breaks (h : w.Breaks settings t) (d : Folder) :
    ∃ u, w.result settings d t = .failed u := by
  obtain ⟨message, hlast⟩ := h
  exact ⟨_, by simp only [result, finish, hlast]; rfl⟩

end World

theorem author?_of_read {q : Path} {submission : Submission}
    (h : Submission.read d q = .ok submission) : author? d q = some submission.identity := by
  simp only [author?, h]
  rfl

theorem author?_eq_none_iff {q : Path} :
    author? d q = none ↔ ∃ e, Submission.read d q = .error e := by
  unfold author?
  cases Submission.read d q with
  | error e => simp [Except.toOption]
  | ok submission => simp [Except.toOption]

theorem unread?_eq_some {q : Path} {u : Ungraded} (h : unread? d q = some u) :
    author? d q = none ∧ u.path = q ∧ u.identity = none := by
  unfold unread? at h
  split at h
  · rename_i e hread
    cases h
    exact ⟨author?_eq_none_iff.mpr ⟨e, hread⟩, rfl, rfl⟩
  · cases h

theorem entries_unread (d : Folder) (paths : List Path) :
    (paths.filterMap (unread? d)).map (fun u => (u.path, u.identity)) =
      (paths.filter fun q => (author? d q).isNone).map fun q => (q, none) := by
  induction paths with
  | nil => rfl
  | cons q rest ih =>
    cases hread : Submission.read d q with
    | error e =>
      have hnone : author? d q = none := author?_eq_none_iff.mpr ⟨e, hread⟩
      simp [unread?, hread, hnone, ih]
    | ok submission =>
      have hsome := author?_of_read hread
      simp [unread?, hread, hsome, ih]

theorem entries_failed (w : World) (settings : Settings) (d : Folder) (tasks : List Task) :
    ((tasks.map (w.result settings d)).filterMap Result.failure?).map
        (fun u => (u.path, u.identity)) =
      (tasks.filter (w.fails settings d)).map fun t => (t.path, w.named? settings t) := by
  induction tasks with
  | nil => rfl
  | cons t rest ih =>
    rw [List.map_cons]
    cases hresult : w.result settings d t with
    | graded r =>
      have hfails : ¬ w.fails settings d t = true := by
        rw [World.fails, hresult]
        exact Bool.false_ne_true
      rw [List.filter_cons_of_neg hfails, ← ih]
      rfl
    | failed u =>
      obtain ⟨hpath, hidentity⟩ := World.entry_of_result_failed hresult
      have hfails : w.fails settings d t = true := by
        rw [World.fails, hresult]
        rfl
      rw [List.filter_cons_of_pos hfails, List.map_cons, ← ih, ← hpath, ← hidentity]
      rfl

/-- The failures of a batch are those of the submissions that cannot be read, which name nobody, and
then those of the tasks without a record, in their order. Each names the author of its submission,
if there is one, unless the judge broke off: whenever that happens, an author is not named. -/
theorem failures_name_authors_unless_broken (h : prepare settings paths d = .ok p)
    (hreach : p.Reaches settings w s) {o : Outcome} (ho : s.outcome? p = some o) :
    o.failures.map (fun u => (u.path, u.identity)) =
      ((paths.filter fun q => (author? p.folder q).isNone).map fun q => (q, none)) ++
      (p.plan.tasks.filter (w.fails settings p.folder)).map
        (fun t => (t.path, w.named? settings t)) ∧
    (∀ u ∈ o.failures, u.identity = author? p.folder u.path ∨
      u.identity = none ∧ ∃ t ∈ p.plan.tasks, t.path = u.path ∧ w.Breaks settings t) ∧
    ∀ t ∈ p.plan.tasks, w.Breaks settings t →
      author? p.folder t.path = some t.submission.identity ∧
      ∃ u ∈ o.failures, u.path = t.path ∧ u.identity = none := by
  have houtcome := outcome_eq h hreach ho
  refine ⟨?_, ?_, ?_⟩
  · rw [houtcome, prepare_unread h]
    change ((paths.filterMap (unread? p.folder)) ++ _).map _ = _
    rw [List.map_append, entries_unread, World.results, entries_failed]
  · intro u hu
    rw [houtcome] at hu
    rcases Outcome.mem_failures.mp hu with hunread | hfailed
    · rw [prepare_unread h] at hunread
      obtain ⟨q, _, hq⟩ := List.mem_filterMap.mp hunread
      obtain ⟨hnone, rfl, hidentity⟩ := unread?_eq_some hq
      exact Or.inl (hidentity.trans hnone.symm)
    · obtain ⟨t, ht, hresult⟩ := List.mem_map.mp hfailed
      obtain ⟨hpath, hidentity⟩ := World.entry_of_result_failed hresult
      by_cases hbreaks : w.Breaks settings t
      · exact Or.inr ⟨hidentity.trans (World.named?_of_breaks hbreaks), t, ht, hpath.symm, hbreaks⟩
      · refine Or.inl ?_
        rw [hidentity, World.named?_of_not_breaks hbreaks, hpath, author?_of_read (prepare_read h ht)]
  · intro t ht hbreaks
    obtain ⟨u, hresult⟩ := World.exists_result_of_breaks hbreaks p.folder
    obtain ⟨hpath, hidentity⟩ := World.entry_of_result_failed hresult
    refine ⟨author?_of_read (prepare_read h ht), u, ?_, hpath, ?_⟩
    · rw [houtcome]
      exact Outcome.mem_failures.mpr (Or.inr (hresult ▸ List.mem_map_of_mem ht))
    · exact hidentity.trans (World.named?_of_breaks hbreaks)

theorem Prepared.exists_outcome (w : World) (settings : Settings) (p : Prepared) :
    ∃ s o, p.Reaches settings w s ∧ s.outcome? p = some o := by
  have hstart : p.Reaches settings w (.start settings p.folder) := .start
  obtain ⟨s, results, hreach, hresults⟩ := hstart.exists_results
  exact ⟨s, _, hreach, congrArg (Option.map _) hresults⟩

namespace Sample

def breaking : World := world (.panicked "boom".toList)

end Sample

theorem failures_name_authors_of_sample :
    ∃ p s o, prepare Sample.apart Sample.listed Sample.desk = .ok p ∧
      p.Reaches Sample.apart Sample.breaking s ∧ s.outcome? p = some o ∧
      o.failures.map (fun u => (u.path, u.identity)) =
        [(.ofString "Gone.java", none), (.ofString "/handed/Eve.java", none),
          (.ofString "../handed/Ada.java", none)] := by
  obtain ⟨p, hp, hentries⟩ : ∃ p, prepare Sample.apart Sample.listed Sample.desk = .ok p ∧
      ((Sample.listed.filter fun q => (author? p.folder q).isNone).map fun q => (q, none)) ++
        (p.plan.tasks.filter (Sample.breaking.fails Sample.apart p.folder)).map
          (fun t => (t.path, Sample.breaking.named? Sample.apart t)) =
        [(.ofString "Gone.java", none), (.ofString "/handed/Eve.java", none),
          (.ofString "../handed/Ada.java", none)] := ⟨_, rfl, rfl⟩
  obtain ⟨s, o, hreach, ho⟩ := p.exists_outcome Sample.breaking Sample.apart
  have hnamed := (failures_name_authors_unless_broken hp hreach ho).1
  exact ⟨p, s, o, hp, hreach, ho, hnamed.trans hentries⟩

/-- Ada's file can be read, but when the judge breaks off over it, its failure does not name her. -/
theorem author_lost_where_judge_breaks :
    ∃ p s o u, prepare Sample.apart Sample.listed Sample.desk = .ok p ∧
      p.Reaches Sample.apart Sample.breaking s ∧ s.outcome? p = some o ∧
      u ∈ o.failures ∧ u.identity = none ∧
      author? p.folder u.path = some "Ada".toList := by
  obtain ⟨p, hp, t, ht, hresult, hauthor⟩ : ∃ p,
      prepare Sample.apart Sample.listed Sample.desk = .ok p ∧
      ∃ t ∈ p.plan.tasks, Sample.breaking.result Sample.apart p.folder t =
        .failed (t.lost (panicReason "boom".toList)) ∧
        author? p.folder t.path = some "Ada".toList :=
    ⟨_, rfl, _, List.mem_cons_of_mem _ List.mem_cons_self, rfl, rfl⟩
  obtain ⟨s, o, hreach, ho⟩ := p.exists_outcome Sample.breaking Sample.apart
  refine ⟨p, s, o, t.lost (panicReason "boom".toList), hp, hreach, ho, ?_, rfl, hauthor⟩
  rw [outcome_eq hp hreach ho]
  exact Outcome.mem_failures.mpr (Or.inr (hresult ▸ List.mem_map_of_mem ht))

end LabGrader.Batch
