import LabGrader.Proofs.Batch.Course
import LabGrader.Proofs.Batch.Outcome

/-!
# Side by side is as good as one after another

In whatever order the tasks of a batch move, the batch comes to the outcome that grading them one
after another has. Every listed path gets its own entry, from its own text and the judge's answers
about it, and what happens to one task makes no difference to the entries of the others.
-/

namespace LabGrader.Batch

variable {settings : Settings} {w : World} {paths : List Path} {d : Folder} {p : Prepared}
  {s : State} {t : Task} {home : Location}

namespace World

theorem result_path (w : World) (settings : Settings) (d : Folder) (t : Task) :
    (w.result settings d t).path = some t.path := by
  unfold result finish
  cases w.last settings t with
  | answered answer =>
    change (keep settings t (w.fault t) answer d).2.path = some t.path
    unfold keep
    split <;> rfl
  | failed e => rfl
  | panicked message => rfl

/-- What the tasks of a batch come to, in their order. -/
def results (w : World) (settings : Settings) (p : Prepared) : List Result :=
  p.plan.tasks.map (w.result settings p.folder)

theorem results_set {w' : World} {i : Nat} (ht : p.plan.tasks[i]? = some t)
    (hsame : ∀ (j : Nat) (u : Task), p.plan.tasks[j]? = some u → j ≠ i →
      w'.attempt u = w.attempt u ∧ w'.fault u = w.fault u) :
    w'.results settings p = (w.results settings p).set i (w'.result settings p.folder t) := by
  apply List.ext_getElem?
  intro j
  rw [results, results, List.getElem?_set, List.getElem?_map, List.getElem?_map, List.length_map]
  obtain ⟨hi, _⟩ := List.getElem?_eq_some_iff.mp ht
  by_cases hij : i = j
  · subst j
    rw [ht, if_pos rfl, if_pos hi]
    rfl
  · rw [if_neg hij]
    cases hu : p.plan.tasks[j]? with
    | none => rfl
    | some u =>
      obtain ⟨hattempt, hfault⟩ := hsame j u hu (Ne.symm hij)
      exact congrArg some (result_congr hattempt hfault)

end World

/-- The outcome `o` is what the submissions at `paths` deserve in the world `w`. -/
structure Outcome.Accounts (settings : Settings) (w : World) (paths : List Path) (p : Prepared)
    (o : Outcome) : Prop where
  sequential : o = (grade settings w p).2
  /-- tasks stand for the submissions that can be read, in the order of the paths -/
  inOrder : p.plan.tasks.map Task.submission =
    paths.filterMap fun q => (Submission.read p.folder q).toOption
  /-- every path has one entry for each time it is listed -/
  complete : (o.records.map Record.path ++ o.failures.map fun u => some u.path).Perm
    (paths.map some)
  /-- a record is made of a submission's own parts and of the answer about it -/
  own : ∀ r ∈ o.records, ∃ t ∈ p.plan.tasks, ∃ answer,
    Submission.read p.folder t.path = .ok t.submission ∧
    w.last settings t = .answered answer ∧
    r = Record.ofParts BinaryFormat.binary64.round (Submission.normalize t.submission.text).identity
      (Response.parse answer)
      (Style.analyze BinaryFormat.binary64.round t.submission.text settings.costs settings.boundary)
      (some t.path)
  sorted : o.records.Pairwise fun r s => (Text.order r.identity s.identity).isLE
  stable : ∀ identity, o.records.filter (·.identity = identity) =
    ((w.results settings p).filterMap Result.record?).filter (·.identity = identity)
  failures : o.failures =
    paths.filterMap (unread? p.folder) ++ (w.results settings p).filterMap Result.failure?
  answered : ∀ t ∈ p.plan.tasks, ∀ answer d', w.last settings t = .answered answer →
    p.folder.writeUnless (w.fault t) (t.file settings) (Text.utf8 answer) = .ok d' →
    t.submission.record settings answer ∈ o.records
  failed : ∀ t ∈ p.plan.tasks, ∀ e, w.last settings t = .failed e →
    ⟨t.path, some (Submission.normalize t.submission.text).identity, e.message⟩ ∈ o.failures
  broken : ∀ t ∈ p.plan.tasks, ∀ message, w.last settings t = .panicked message →
    ⟨t.path, none, panicReason message⟩ ∈ o.failures

theorem grade_snd (h : Housed settings p.plan.tasks p.folder home) :
    (grade settings w p).2 = .ofResults p.plan.unread (w.results settings p) :=
  congrArg (Outcome.ofResults p.plan.unread) (loop_snd h)

theorem results_paths (h : prepare settings paths d = .ok p) :
    ((w.results settings p).map Result.path ++ p.plan.unread.map fun u => some u.path).Perm
      (paths.map some) := by
  have hpaths := (prepare_paths h).map some
  have hresults : (w.results settings p).map Result.path = (p.plan.tasks.map Task.path).map some := by
    simp only [World.results, List.map_map]
    exact List.map_congr_left fun t _ => w.result_path settings p.folder t
  rw [hresults]
  simpa only [List.map_append, List.map_map, Function.comp_def] using hpaths

theorem accounts_ofResults (h : prepare settings paths d = .ok p) :
    (Outcome.ofResults p.plan.unread (w.results settings p)).Accounts settings w paths p := by
  obtain ⟨home, hhoused⟩ := prepare_housed h
  have hmem : ∀ t ∈ p.plan.tasks, w.result settings p.folder t ∈ w.results settings p :=
    fun t ht => List.mem_map_of_mem ht
  constructor
  case sequential => exact (grade_snd hhoused).symm
  case inOrder => exact prepare_submissions h
  case complete =>
    exact (Outcome.entries_perm p.plan.unread (w.results settings p)).trans (results_paths h)
  case own =>
    intro r hr
    obtain ⟨t, ht, hgraded⟩ := List.mem_map.mp (Outcome.mem_records.mp hr)
    obtain ⟨answer, _, hlast, _, hrecord⟩ := World.result_eq_graded_iff.mp hgraded
    exact ⟨t, ht, answer, prepare_read h ht, hlast, hrecord.symm⟩
  case sorted => exact Outcome.records_sorted _ _
  case stable => exact Outcome.records_stable _ _
  case failures => rw [← prepare_unread h]; rfl
  case answered =>
    intro t ht answer d' hlast hwrite
    have hgraded := World.result_eq_graded_iff.mpr ⟨answer, d', hlast, hwrite, rfl⟩
    exact Outcome.mem_records.mpr (hgraded ▸ hmem t ht)
  case failed =>
    intro t ht e hlast
    have hresult : w.result settings p.folder t = .failed (t.failed e.message) := by
      simp only [World.result, finish, hlast]
    exact Outcome.mem_failures_of_failed (hresult ▸ hmem t ht)
  case broken =>
    intro t ht message hlast
    have hresult : w.result settings p.folder t = .failed (t.lost (panicReason message)) := by
      simp only [World.result, finish, hlast]
    exact Outcome.mem_failures_of_failed (hresult ▸ hmem t ht)

theorem outcome_eq (h : prepare settings paths d = .ok p) (hreach : p.Reaches settings w s)
    {o : Outcome} (ho : s.outcome? p = some o) :
    o = .ofResults p.plan.unread (w.results settings p) := by
  obtain ⟨home, hhoused⟩ := prepare_housed h
  obtain ⟨results, hresults, rfl⟩ := Option.map_eq_some_iff.mp ho
  rw [(Reach.course hhoused hreach).results hresults]
  rfl

/-- Every run of a prepared batch ends and comes to an outcome; whatever the order of its events,
that outcome is the one of grading one after another, with an entry of its own for every path, and
what happens to one task changes no entry but its own. -/
theorem every_run_accounts (h : prepare settings paths d = .ok p) :
    (WellFounded fun s' s => ∃ e, step? settings p.plan.tasks s e = some s') ∧
    ∀ s, p.Reaches settings w s →
      (∃ s' o, Reach settings p.plan.tasks (w.Allows p.plan.tasks) s s' ∧
        s'.outcome? p = some o) ∧
      ∀ o, s.outcome? p = some o →
        o.Accounts settings w paths p ∧
        ∀ (w' : World) (i : Nat) (t : Task) (s' : State) (o' : Outcome),
          p.plan.tasks[i]? = some t →
          (∀ (j : Nat) (u : Task), p.plan.tasks[j]? = some u → j ≠ i →
            w'.attempt u = w.attempt u ∧ w'.fault u = w.fault u) →
          p.Reaches settings w' s' → s'.outcome? p = some o' →
          o = .ofResults p.plan.unread (w.results settings p) ∧
          o' = .ofResults p.plan.unread
            ((w.results settings p).set i (w'.result settings p.folder t)) := by
  refine ⟨wellFounded_step? settings p.plan.tasks, ?_⟩
  intro s hreach
  refine ⟨?_, ?_⟩
  · obtain ⟨s', results, hlater, hresults⟩ := hreach.exists_results
    exact ⟨s', _, hlater, congrArg (Option.map _) hresults⟩
  · intro o ho
    have houtcome := outcome_eq h hreach ho
    refine ⟨houtcome ▸ accounts_ofResults h, ?_⟩
    intro w' i t s' o' ht hsame hreach' ho'
    rw [← World.results_set ht hsame]
    exact ⟨houtcome, outcome_eq h hreach' ho'⟩

namespace Sample

/-- Answers are kept away from the working folder. -/
def apart : Settings where
  breakdownFolder := .ofString "/kept/answers"

/-- Of the submissions on the desk, Eve's may not be read. -/
def desk : Folder where
  __ := Folder.ofList [(.ofString "/handed/Ada.java", .file (Text.utf8 "// Ada\n".toList)),
    (.ofString "/handed/Bob.java", .file (Text.utf8 "// Bob\n".toList)),
    (.ofString "/handed/Eve.java", .file (Text.utf8 "// Eve\n".toList))]
  refusal? use l :=
    if use = .read ∧ l.getLast? = some "Eve.java".toList then
      some (.other "Permission denied (os error 13)".toList)
    else none

def listed : List Path :=
  [.ofString "/handed/Bob.java", .ofString "Gone.java", .ofString "../handed/Ada.java",
    .ofString "/handed/Eve.java"]

/-- Bob's first question gets no answer in time, what comes of Ada's is left open. -/
def world (ada : Attempt) : World where
  attempt t retries :=
    if t.submission.identity = "Ada".toList then ada
    else if retries = 0 then .failed (.timeout (.ofSeconds 1))
    else .answered "SCORE: 9 COMMENTS: fine CONFIDENCE: 90%".toList

end Sample

theorem accounts_of_sample :
    ∃ p s o s' o' t,
      prepare Sample.apart Sample.listed Sample.desk = .ok p ∧ p.plan.tasks[1]? = some t ∧
      p.Reaches Sample.apart (Sample.world (.panicked [])) s ∧ s.outcome? p = some o ∧
      o.Accounts Sample.apart (Sample.world (.panicked [])) Sample.listed p ∧
      p.Reaches Sample.apart (Sample.world (.answered [])) s' ∧ s'.outcome? p = some o' ∧
      o' = .ofResults p.plan.unread (((Sample.world (.panicked [])).results Sample.apart p).set 1
        ((Sample.world (.answered [])).result Sample.apart p.folder t)) := by
  obtain ⟨p, hp, hauthors⟩ : ∃ p, prepare Sample.apart Sample.listed Sample.desk = .ok p ∧
      p.plan.tasks.map (·.submission.identity) = ["Bob".toList, "Ada".toList] := ⟨_, rfl, rfl⟩
  have hlength : p.plan.tasks.length = 2 := by simpa using congrArg List.length hauthors
  have ht : p.plan.tasks[1]? = some p.plan.tasks[1] := List.getElem?_eq_getElem (by omega)
  have hsame : ∀ (j : Nat) (u : Task), p.plan.tasks[j]? = some u → j ≠ 1 →
      (Sample.world (.answered [])).attempt u = (Sample.world (.panicked [])).attempt u ∧
      (Sample.world (.answered [])).fault u = (Sample.world (.panicked [])).fault u := by
    intro j u hu hj
    obtain ⟨hlt, _⟩ := List.getElem?_eq_some_iff.mp hu
    obtain rfl : j = 0 := by omega
    have hbob : u.submission.identity = "Bob".toList := by
      have := congrArg (·[0]?) hauthors
      simpa [hu] using this
    have hne : u.submission.identity ≠ "Ada".toList := by
      rw [hbob]
      decide
    exact ⟨by funext retries; simp only [Sample.world, if_neg hne], rfl⟩
  obtain ⟨_, hruns⟩ := every_run_accounts (w := Sample.world (.panicked [])) hp
  obtain ⟨_, hruns'⟩ := every_run_accounts (w := Sample.world (.answered [])) hp
  obtain ⟨⟨s, o, hreach, ho⟩, _⟩ := hruns _ .start
  obtain ⟨⟨s', o', hreach', ho'⟩, _⟩ := hruns' _ .start
  obtain ⟨haccounts, hother⟩ := (hruns s hreach).2 o ho
  exact ⟨p, s, o, s', o', p.plan.tasks[1], hp, ht, hreach, ho, haccounts, hreach', ho',
    (hother _ 1 _ s' o' ht hsame hreach' ho').2⟩

end LabGrader.Batch
