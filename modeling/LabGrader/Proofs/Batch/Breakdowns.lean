import LabGrader.Proofs.Batch.Completion
import LabGrader.Proofs.Batch.Course

/-!
# The breakdown folder

While a batch is under way the folder is the one it started from, with one more or one replaced file
for each task that has its record: the answer about that task, under its own name. The other tasks
and the other files have no part in it.
-/

namespace LabGrader.Batch

variable {settings : Settings} {w : World} {tasks : List Task} {d : Folder} {home : Location}
  {s s' : State} {t u : Task}

theorem Task.place_ne (hnodup : (tasks.map Task.breakdown).Nodup) (ht : t ∈ tasks) (hu : u ∈ tasks)
    (hne : t ≠ u) (home : Location) : t.place home ≠ u.place home := by
  intro h
  have hname : t.breakdown = u.breakdown := by simpa [Task.place] using h
  exact hne (List.inj_on_of_nodup_map hnodup ht hu hname)

def Stage.record? : Stage → Option Record
  | .done (.returned (.graded r)) => some r
  | _ => none

/-- The task has its record by now. -/
def State.Recorded (s : State) (tasks : List Task) (t : Task) : Prop :=
  ∃ (i : Nat) (stage : Stage) (r : Record),
    tasks[i]? = some t ∧ s.stages[i]? = some stage ∧ stage.record? = some r

theorem recorded_spawn (hstages : s'.stages = s.stages ++ [.queued]) (t : Task) :
    s'.Recorded tasks t ↔ s.Recorded tasks t := by
  constructor
  · rintro ⟨i, stage, r, ht, hstage, hr⟩
    rw [hstages, List.getElem?_append] at hstage
    split at hstage
    · exact ⟨i, stage, r, ht, hstage, hr⟩
    · obtain rfl : stage = .queued := List.mem_singleton.mp (List.mem_of_getElem? hstage)
      cases hr
  · rintro ⟨i, stage, r, ht, hstage, hr⟩
    obtain ⟨hi, _⟩ := List.getElem?_eq_some_iff.mp hstage
    refine ⟨i, stage, r, ht, ?_, hr⟩
    rw [hstages, List.getElem?_append_left hi, hstage]

/-- A task without a record has one afterwards if its new stage says so; for the others nothing
changes. -/
theorem recorded_set {i : Nat} {stage x : Stage} (ht : tasks[i]? = some t)
    (hstage : s.stages[i]? = some stage) (hnone : stage.record? = none)
    (hstages : s'.stages = s.stages.set i x) (u : Task) :
    s'.Recorded tasks u ↔ s.Recorded tasks u ∨ (u = t ∧ ∃ r, x.record? = some r) := by
  obtain ⟨hi, _⟩ := List.getElem?_eq_some_iff.mp hstage
  constructor
  · rintro ⟨j, y, r, hu, hy, hr⟩
    by_cases hij : i = j
    · subst j
      rw [hstages, List.getElem?_set_self hi] at hy
      cases hy
      exact Or.inr ⟨Option.some.inj (hu.symm.trans ht), r, hr⟩
    · rw [hstages, List.getElem?_set_ne hij] at hy
      exact Or.inl ⟨j, y, r, hu, hy, hr⟩
  · rintro (⟨j, y, r, hu, hy, hr⟩ | ⟨rfl, r, hr⟩)
    · have hij : i ≠ j := by
        rintro rfl
        rw [hstage] at hy
        cases hy
        rw [hnone] at hr
        cases hr
      exact ⟨j, y, r, hu, by rw [hstages, List.getElem?_set_ne hij, hy], hr⟩
    · exact ⟨i, x, r, ht, by rw [hstages, List.getElem?_set_self hi], hr⟩

theorem Moved.record?_eq_none {i : Nat} {stage : Stage} {m : Move}
    (h : Moved settings t s i stage m s') : stage.record? = none := by
  cases h <;> rfl

theorem record?_afterAttempt (t : Task) (retries : Nat) (a : Attempt) :
    (afterAttempt settings t retries a).record? = none := by
  unfold afterAttempt
  split
  · rfl
  · cases a <;> rfl

/-- A move leaves the folder as it is, or gives the task its record and puts the answer in its
place. -/
theorem folder_of_moved {i : Nat} {stage : Stage} {m : Move} (h : Housed settings tasks d home)
    (ht : t ∈ tasks) (hdir : d.SameDirectories s.folder) (hcourse : w.OnCourse settings d t stage)
    (hmoved : Moved settings t s i stage m s') :
    ∃ x, s'.stages = s.stages.set i x ∧
      ((x.record? = none ∧ s'.folder = s.folder) ∨
        ∃ answer r, x.record? = some r ∧ w.last settings t = .answered answer ∧
          s.folder.isDirectory (t.place home) = false ∧
          s'.folder = s.folder.put (t.place home) (.file (Text.utf8 answer))) := by
  cases hmoved with
  | began hfree => exact ⟨_, rfl, Or.inl ⟨rfl, rfl⟩⟩
  | heard retries a => exact ⟨_, rfl, Or.inl ⟨record?_afterAttempt t retries a, rfl⟩⟩
  | resumed retry => exact ⟨_, rfl, Or.inl ⟨rfl, rfl⟩⟩
  | wrote answer fault =>
    refine ⟨_, rfl, ?_⟩
    rw [keep_eq (h.mono hdir) ht]
    cases hrefusal : t.refusal? settings fault home s.folder with
    | some cause => exact Or.inl ⟨rfl, rfl⟩
    | none =>
      exact Or.inr ⟨answer, _, rfl, hcourse, isDirectory_of_refusal?_none hrefusal, rfl⟩

/-- The files in a run of the world `w` that started from the folder `d`. -/
structure Kept (settings : Settings) (w : World) (tasks : List Task) (d : Folder)
    (home : Location) (s : State) : Prop where
  kept : ∀ u answer, s.Recorded tasks u → w.last settings u = .answered answer →
    s.folder.entryAt? (u.place home) = some (.file (Text.utf8 answer))
  unchanged : ∀ x, (∀ u, s.Recorded tasks u → x ≠ u.place home) →
    s.folder.entryAt? x = d.entryAt? x

theorem Kept.start (settings : Settings) (w : World) (tasks : List Task) (d : Folder)
    (home : Location) : Kept settings w tasks d home (.start settings d) := by
  refine ⟨?_, fun _ _ => rfl⟩
  rintro u answer ⟨i, stage, r, _, hstage, _⟩
  simp [State.start] at hstage

theorem Kept.congr (hkept : Kept settings w tasks d home s) (hfolder : s'.folder = s.folder)
    (hsame : ∀ u, s'.Recorded tasks u ↔ s.Recorded tasks u) :
    Kept settings w tasks d home s' := by
  constructor
  · intro u answer hu
    rw [hfolder]
    exact hkept.kept u answer ((hsame u).mp hu)
  · intro x hx
    rw [hfolder]
    exact hkept.unchanged x fun u hu => hx u ((hsame u).mpr hu)

theorem Kept.put {answer : Text} (hkept : Kept settings w tasks d home s)
    (hnodup : (tasks.map Task.breakdown).Nodup) (ht : t ∈ tasks)
    (hlast : w.last settings t = .answered answer)
    (hdir : s.folder.isDirectory (t.place home) = false)
    (hfolder : s'.folder = s.folder.put (t.place home) (.file (Text.utf8 answer)))
    (hmore : ∀ u, s'.Recorded tasks u ↔ s.Recorded tasks u ∨ u = t) :
    Kept settings w tasks d home s' := by
  have hput := Folder.entryAt?_put s.folder (Folder.not_prefix_of_not_isDirectory hdir)
    (.file (Text.utf8 answer))
  constructor
  · intro u answer' hu hlast'
    rw [hfolder, hput]
    by_cases hut : u = t
    · subst u
      rw [hlast] at hlast'
      cases hlast'
      exact if_pos rfl
    · have hmem : u ∈ tasks := by
        obtain ⟨i, _, _, hi, _⟩ := hu
        exact List.mem_of_getElem? hi
      rw [if_neg (Task.place_ne hnodup hmem ht hut home)]
      exact hkept.kept u answer' (((hmore u).mp hu).resolve_right hut) hlast'
  · intro x hx
    rw [hfolder, hput, if_neg (hx t ((hmore t).mpr (Or.inr rfl)))]
    exact hkept.unchanged x fun u hu => hx u ((hmore u).mpr (Or.inl hu))

theorem Kept.step {e : Event} (h : Housed settings tasks d home)
    (hcourse : Course settings w tasks d s) (hkept : Kept settings w tasks d home s)
    (hstep : step? settings tasks s e = some s') : Kept settings w tasks d home s' := by
  cases e with
  | spawn =>
    obtain ⟨_, rfl⟩ := step?_spawn_iff.mp hstep
    exact hkept.congr rfl (recorded_spawn rfl)
  | move i m =>
    obtain ⟨t, stage, ht, hstage, hmoved⟩ := step?_move_iff.mp hstep
    have hmem := List.mem_of_getElem? ht
    obtain ⟨x, hstages, hcases⟩ := folder_of_moved h hmem hcourse.sameDirectories
      (hcourse.onCourse i t stage ht hstage) hmoved
    have hset := recorded_set ht hstage hmoved.record?_eq_none hstages
    rcases hcases with ⟨hnone, hfolder⟩ | ⟨answer, r, hr, hlast, hdir, hfolder⟩
    · refine hkept.congr hfolder fun u => (hset u).trans ?_
      simp [hnone]
    · refine hkept.put h.nodup hmem hlast hdir hfolder fun u => (hset u).trans ?_
      simp [hr]

theorem Reach.kept (h : Housed settings tasks d home)
    (hreach : Reach settings tasks (w.Allows tasks) (.start settings d) s) :
    Kept settings w tasks d home s := by
  induction hreach with
  | start => exact .start settings w tasks d home
  | step hbefore _ hstep ih => exact ih.step h (Reach.course h hbefore) hstep

theorem recorded_iff_of_results? {results : List Result} (h : s.results? tasks = some results)
    (u : Task) :
    s.Recorded tasks u ↔
      ∃ (i : Nat) (r : Record), tasks[i]? = some u ∧ results[i]? = some (.graded r) := by
  obtain ⟨endings, hstages, hlength, rfl⟩ := results?_eq_some_iff.mp h
  constructor
  · rintro ⟨i, stage, r, hu, hstage, hr⟩
    rw [hstages, List.getElem?_map, Option.map_eq_some_iff] at hstage
    obtain ⟨ending, hending, rfl⟩ := hstage
    refine ⟨i, r, hu, ?_⟩
    rw [List.getElem?_zipWith, hu, hending]
    cases ending with
    | returned result => cases result <;> simp_all [Stage.record?, Ending.result]
    | broken message => cases hr
  · rintro ⟨i, r, hu, hr⟩
    rw [List.getElem?_zipWith, hu] at hr
    cases hending : endings[i]? with
    | none => simp [hending] at hr
    | some ending =>
      simp only [hending, Option.some.injEq] at hr
      refine ⟨i, .done ending, r, hu, by simp [hstages, hending], ?_⟩
      cases ending with
      | returned result =>
        cases hr
        rfl
      | broken message => cases hr

/-- A file that could be written where it was asked for is found there again. -/
theorem locate_of_writeUnless {d' d₁ : Folder} {fault : Option SystemError} {content : Bytes}
    (h : Housed settings tasks d home) (ht : t ∈ tasks) (hdir : d.SameDirectories d')
    (hwrite : d.writeUnless fault (t.file settings) content = .ok d₁) :
    d'.locate (t.file settings) = .ok (t.place home) := by
  have hname := h.isFileName t ht
  have hfault : d.nameFault? settings.breakdownFolder home t.breakdown = none := by
    cases fault with
    | some cause => cases hwrite
    | none =>
      rw [Folder.writeUnless, Task.file, h.isHome.write_eq hname, Folder.writeFault?] at hwrite
      cases hfault : d.nameFault? settings.breakdownFolder home t.breakdown with
      | some cause =>
        rw [hfault] at hwrite
        cases hwrite
      | none => rfl
  rw [Task.file, (h.mono hdir).isHome.locate_eq hname, hdir.nameFault?, hfault]
  rfl

/-- The folder `after` is `before` with the answers about the graded tasks, each in its own file
in the directory `home`. -/
structure Filed (settings : Settings) (w : World) (tasks : List Task) (home : Location)
    (results : List Result) (before after : Folder) : Prop where
  /-- a task with a record has the answer that made the record in its file -/
  kept : ∀ (i : Nat) (t : Task) (r : Record),
    tasks[i]? = some t → results[i]? = some (.graded r) →
      ∃ answer, w.last settings t = .answered answer ∧ t.submission.record settings answer = r ∧
        after.entryAt? (t.place home) = some (.file (Text.utf8 answer)) ∧
        after.locate (t.file settings) = .ok (t.place home) ∧
        (after.refusal? .read (t.place home) = none →
          after.read (t.file settings) = .ok (Text.utf8 answer))
  /-- a task without a record leaves its place as it was -/
  spared : ∀ (i : Nat) (t : Task) (u : Ungraded),
    tasks[i]? = some t → results[i]? = some (.failed u) →
      after.entryAt? (t.place home) = before.entryAt? (t.place home)
  separate : ∀ (i j : Nat) (t u : Task),
    tasks[i]? = some t → tasks[j]? = some u → i ≠ j → t.place home ≠ u.place home
  unchanged : ∀ x, (∀ (i : Nat) (t : Task) (r : Record),
      tasks[i]? = some t → results[i]? = some (.graded r) → x ≠ t.place home) →
    after.entryAt? x = before.entryAt? x

theorem place_separate (hnodup : (tasks.map Task.breakdown).Nodup) {i j : Nat}
    (ht : tasks[i]? = some t) (hu : tasks[j]? = some u) (hij : i ≠ j) (home : Location) :
    t.place home ≠ u.place home := by
  apply Task.place_ne hnodup (List.mem_of_getElem? ht) (List.mem_of_getElem? hu)
  rintro rfl
  obtain ⟨hi, _⟩ := List.getElem?_eq_some_iff.mp ht
  exact hij ((List.getElem?_inj hi (List.Nodup.of_map _ hnodup)).mp (ht.trans hu.symm))

theorem filed_of_results {results : List Result} (h : Housed settings tasks d home)
    (hreach : Reach settings tasks (w.Allows tasks) (.start settings d) s)
    (hresults : s.results? tasks = some results) :
    Filed settings w tasks home results d s.folder := by
  have hcourse := Reach.course h hreach
  have hkept := Reach.kept h hreach
  have hrecorded := recorded_iff_of_results? hresults
  have hunchanged : ∀ x, (∀ (i : Nat) (t : Task) (r : Record),
      tasks[i]? = some t → results[i]? = some (.graded r) → x ≠ t.place home) →
      s.folder.entryAt? x = d.entryAt? x := by
    intro x hx
    apply hkept.unchanged
    intro u hu
    obtain ⟨i, r, hi, hr⟩ := (hrecorded u).mp hu
    exact hx i u r hi hr
  constructor
  case kept =>
    intro i t r ht hr
    have hresult : w.result settings d t = .graded r := by
      rw [hcourse.results hresults, List.getElem?_map, ht] at hr
      exact Option.some.inj hr
    obtain ⟨answer, _, hlast, hwrite, hrecord⟩ := World.result_eq_graded_iff.mp hresult
    have hentry := hkept.kept t answer ((hrecorded t).mpr ⟨i, r, ht, hr⟩) hlast
    have hlocate := locate_of_writeUnless h (List.mem_of_getElem? ht) hcourse.sameDirectories hwrite
    exact ⟨answer, hlast, hrecord, hentry, hlocate, fun hallowed =>
      Folder.read_iff.mpr ⟨_, hlocate, hentry, hallowed⟩⟩
  case spared =>
    intro i t u ht hu
    apply hunchanged
    intro j v r hv hr
    have hij : i ≠ j := by
      rintro rfl
      rw [hu] at hr
      cases hr
    exact place_separate h.nodup ht hv hij home
  case separate => exact fun i j t u ht hu hij => place_separate h.nodup ht hu hij home
  case unchanged => exact hunchanged

/-- Whatever the order of events, every run of a prepared batch ends with the answers about the
graded submissions in files of their own, named in the order of the submissions, and with all other
files as they were. Before that, making the breakdown folder has added directories at most. -/
theorem answers_filed {paths : List Path} {p : Prepared} (h : prepare settings paths d = .ok p) :
    p.plan.tasks.map Task.breakdown =
        Breakdown.claimAll [] (p.plan.tasks.map fun t => (t.submission.identity, t.path)) ∧
      d.Widened p.folder ∧
      ∃ home, p.folder.Home settings.breakdownFolder home ∧
        ∀ s, p.Reaches settings w s →
          (∃ s' results, Reach settings p.plan.tasks (w.Allows p.plan.tasks) s s' ∧
            s'.results? p.plan.tasks = some results) ∧
          ∀ results, s.results? p.plan.tasks = some results →
            s.outcome? p = some (.ofResults p.plan.unread results) ∧
            Filed settings w p.plan.tasks home results p.folder s.folder := by
  obtain ⟨home, hhoused⟩ := prepare_housed h
  refine ⟨prepare_breakdowns h, (Folder.makeDirectories_spec (prepare_ok h).1).2, home,
    hhoused.isHome, ?_⟩
  intro s hreach
  refine ⟨hreach.exists_results, ?_⟩
  intro results hresults
  exact ⟨congrArg (Option.map _) hresults, filed_of_results hhoused hreach hresults⟩

namespace Sample

/-- A submission, and a file that was in the breakdown folder before. -/
def shelf : Folder :=
  .ofList [(.ofString "/handed/Ada.java", .file (Text.utf8 "// Ada\n".toList)),
    (.ofString "/kept/Ada-GradingBreakdown.txt", .file (Text.utf8 "old".toList))]

/-- The breakdown folder stands beside the working folder. -/
def beside : Settings where
  breakdownFolder := .ofString "../kept"

def twice : List Path := [.ofString "/handed/Ada.java", .ofString "/handed/Ada.java"]

def labelled : World where
  attempt t _ := .answered t.breakdown

end Sample

theorem answers_filed_for_path_listed_twice :
    ∃ p s home results, prepare Sample.beside Sample.twice Sample.shelf = .ok p ∧
      p.plan.tasks.map Task.breakdown = ["Ada-GradingBreakdown.txt".toList,
        "Ada-Ada-GradingBreakdown.txt".toList] ∧
      p.Reaches Sample.beside Sample.labelled s ∧ s.results? p.plan.tasks = some results ∧
      Filed Sample.beside Sample.labelled p.plan.tasks home results p.folder s.folder := by
  obtain ⟨p, hp, hnames⟩ : ∃ p, prepare Sample.beside Sample.twice Sample.shelf = .ok p ∧
      p.plan.tasks.map Task.breakdown = ["Ada-GradingBreakdown.txt".toList,
        "Ada-Ada-GradingBreakdown.txt".toList] := ⟨_, rfl, rfl⟩
  obtain ⟨_, _, home, _, hruns⟩ := answers_filed (w := Sample.labelled) hp
  obtain ⟨⟨s, results, hreach, hresults⟩, _⟩ := hruns _ .start
  exact ⟨p, s, home, results, hp, hnames, hreach, hresults, ((hruns s hreach).2 results hresults).2⟩

end LabGrader.Batch
