import LabGrader.Proofs.Batch.Completion
import LabGrader.Proofs.Batch.Plan

/-!
# The course of a batch

Tasks meet only in the folder. A write neither makes nor removes a directory, and directories are
all that a write depends on, so every task ends as it would on its own. `Course` is the invariant
that says so of a run under way.
-/

namespace LabGrader

/-- All that decides over a write is the same in `d` and `d'`. -/
structure Folder.SameDirectories (d d' : Folder) : Prop where
  isDirectory : ∀ x, d'.isDirectory x = d.isDirectory x
  working : d'.working = d.working
  refusal? : d'.refusal? = d.refusal?

namespace Folder.SameDirectories

variable {d d₁ d₂ : Folder} {l : Location}

theorem refl (d : Folder) : d.SameDirectories d := ⟨fun _ => rfl, rfl, rfl⟩

theorem trans (h : d.SameDirectories d₁) (h' : d₁.SameDirectories d₂) : d.SameDirectories d₂ :=
  ⟨fun x => (h'.isDirectory x).trans (h.isDirectory x), h'.working.trans h.working,
    h'.refusal?.trans h.refusal?⟩

theorem put_file (hl : d.isDirectory l = false) (content : Bytes) :
    d.SameDirectories (d.put l (.file content)) :=
  ⟨isDirectory_put_file hl content, rfl, rfl⟩

theorem keeps (h : d.SameDirectories d₁) : d.Keeps d₁ :=
  ⟨fun x hx => (h.isDirectory x).trans hx, h.working, h.refusal?⟩

theorem nameFault? (h : d.SameDirectories d₁) (p : Path) (l : Location) (name : Text) :
    d₁.nameFault? p l name = d.nameFault? p l name := by
  rw [Folder.nameFault?, Folder.nameFault?, h.refusal?]

theorem writeFault? (h : d.SameDirectories d₁) (p : Path) (l : Location) (name : Text) :
    d₁.writeFault? p l name = d.writeFault? p l name := by
  rw [Folder.writeFault?, Folder.writeFault?, h.nameFault?, h.isDirectory, h.refusal?]

end Folder.SameDirectories

namespace Batch

variable {settings : Settings} {w : World} {tasks : List Task} {d d' : Folder} {home : Location}
  {s s' : State} {t : Task}

/-- Where the answer about a task lies, if answers lie in `home`. -/
def Task.place (t : Task) (home : Location) : Location := home ++ [t.breakdown]

/-- Why the answer about a task cannot be kept in `home`, if it cannot. -/
def Task.refusal? (t : Task) (settings : Settings) (fault : Option SystemError) (home : Location)
    (d : Folder) : Option SystemError :=
  fault <|> d.writeFault? settings.breakdownFolder home t.breakdown

/-- The breakdown folder is the directory `home`, and each task has a file of its own there. -/
structure Housed (settings : Settings) (tasks : List Task) (d : Folder) (home : Location) :
    Prop where
  isHome : d.Home settings.breakdownFolder home
  isFileName : ∀ t ∈ tasks, Path.IsFileName t.breakdown
  nodup : (tasks.map Task.breakdown).Nodup

theorem prepare_housed {paths : List Path} {p : Prepared} (h : prepare settings paths d = .ok p) :
    ∃ home, Housed settings p.plan.tasks p.folder home := by
  obtain ⟨home, hhome⟩ := prepare_home h
  exact ⟨home, hhome, prepare_isFileName h, prepare_breakdowns_nodup h⟩

theorem Housed.tail {rest : List Task} (h : Housed settings (t :: rest) d home) :
    Housed settings rest d home :=
  ⟨h.isHome, fun u hu => h.isFileName u (List.mem_cons_of_mem t hu), (List.nodup_cons.mp h.nodup).2⟩

theorem Housed.mono (h : Housed settings tasks d home) (hdir : d.SameDirectories d') :
    Housed settings tasks d' home :=
  ⟨h.isHome.mono hdir.keeps, h.isFileName, h.nodup⟩

section Keeping
variable {fault : Option SystemError} {answer : Text}

theorem keep_eq (h : Housed settings tasks d home) (ht : t ∈ tasks) :
    keep settings t fault answer d =
      match t.refusal? settings fault home d with
      | some cause =>
        (d, .failed (t.failed (GradingError.breakdownNotWritten (t.file settings) cause).message))
      | none =>
        (d.put (t.place home) (.file (Text.utf8 answer)),
          .graded (t.submission.record settings answer)) := by
  cases fault with
  | some cause => rfl
  | none =>
    have hrefusal : t.refusal? settings none home d =
        d.writeFault? settings.breakdownFolder home t.breakdown := rfl
    rw [hrefusal, keep, Folder.writeUnless, Task.file, h.isHome.write_eq (h.isFileName t ht)]
    cases d.writeFault? settings.breakdownFolder home t.breakdown <;> rfl

theorem isDirectory_of_refusal?_none (h : t.refusal? settings fault home d = none) :
    d.isDirectory (t.place home) = false := by
  have hfault : d.writeFault? settings.breakdownFolder home t.breakdown = none := by
    cases fault with
    | some cause => cases h
    | none => exact h
  by_contra hdir
  unfold Folder.writeFault? at hfault
  split at hfault
  · cases hfault
  · rw [if_pos (by simpa [Task.place] using hdir)] at hfault
    cases hfault

theorem keep_sameDirectories (h : Housed settings tasks d home) (ht : t ∈ tasks)
    (fault : Option SystemError) (answer : Text) :
    d.SameDirectories (keep settings t fault answer d).1 := by
  rw [keep_eq h ht]
  cases hrefusal : t.refusal? settings fault home d with
  | some cause => exact .refl d
  | none => exact .put_file (isDirectory_of_refusal?_none hrefusal) _

/-- Whether an answer is kept does not depend on the files that are there. -/
theorem keep_snd_eq (h : Housed settings tasks d home) (ht : t ∈ tasks)
    (hdir : d.SameDirectories d') :
    (keep settings t fault answer d').2 = (keep settings t fault answer d).2 := by
  have hsame : t.refusal? settings fault home d' = t.refusal? settings fault home d := by
    rw [Task.refusal?, Task.refusal?, hdir.writeFault?]
  rw [keep_eq (h.mono hdir) ht, keep_eq h ht, hsame]
  cases t.refusal? settings fault home d <;> rfl

theorem finish_sameDirectories (h : Housed settings tasks d home) (ht : t ∈ tasks)
    (fault : Option SystemError) (last : Attempt) :
    d.SameDirectories (finish settings t fault last d).1 := by
  cases last with
  | answered answer => exact keep_sameDirectories h ht fault answer
  | failed e => exact .refl d
  | panicked message => exact .refl d

end Keeping

namespace World

/-- What a task comes to, if its answer is kept in the folder `d`. -/
def result (w : World) (settings : Settings) (d : Folder) (t : Task) : Result :=
  (finish settings t (w.fault t) (w.last settings t) d).2

def ending (w : World) (settings : Settings) (d : Folder) (t : Task) : Ending :=
  match w.last settings t with
  | .answered answer => .returned (keep settings t (w.fault t) answer d).2
  | .failed e => .returned (.failed (t.failed e.message))
  | .panicked message => .broken message

theorem ending_result (w : World) (settings : Settings) (d : Folder) (t : Task) :
    (w.ending settings d t).result t.path = w.result settings d t := by
  unfold ending result
  cases w.last settings t <;> rfl

theorem result_eq (h : Housed settings tasks d home) (ht : t ∈ tasks)
    (hdir : d.SameDirectories d') : w.result settings d' t = w.result settings d t := by
  unfold result finish
  cases w.last settings t with
  | answered answer => exact keep_snd_eq h ht hdir
  | failed e => rfl
  | panicked message => rfl

theorem result_eq_graded_iff {r : Record} :
    w.result settings d t = .graded r ↔
      ∃ answer d', w.last settings t = .answered answer ∧
        d.writeUnless (w.fault t) (t.file settings) (Text.utf8 answer) = .ok d' ∧
        t.submission.record settings answer = r := by
  unfold result finish
  cases w.last settings t with
  | answered answer =>
    unfold keep
    cases hwrite : d.writeUnless (w.fault t) (t.file settings) (Text.utf8 answer) with
    | error cause => simp [hwrite]
    | ok written => simp [hwrite]
  | failed e => simp
  | panicked message => simp

/-- What a task comes to depends on nothing that the judge or the system does to other tasks. -/
theorem result_congr {w' : World} (hattempt : w'.attempt t = w.attempt t)
    (hfault : w'.fault t = w.fault t) : w'.result settings d t = w.result settings d t := by
  simp only [result, last, hattempt, hfault]

/-- How the conversation about a task ends after a number of retries. -/
def lastFrom (w : World) (settings : Settings) (t : Task) (retries : Nat) : Attempt :=
  (converseFrom settings.retry (w.attempt t) (settings.retry.maxRetries - retries) retries).result

theorem lastFrom_eq (w : World) (settings : Settings) (t : Task) (retries : Nat) :
    w.lastFrom settings t retries =
      if settings.retry.asksAgain retries (w.attempt t retries) then
        w.lastFrom settings t (retries + 1)
      else w.attempt t retries :=
  converseFrom_result settings.retry (w.attempt t) retries

/-- A task at a stage is on its way to its own end. -/
def OnCourse (w : World) (settings : Settings) (d : Folder) (t : Task) : Stage → Prop
  | .queued => True
  | .asking retries => w.lastFrom settings t retries = w.last settings t
  | .pausing retry => w.lastFrom settings t retry = w.last settings t
  | .answered answer => w.last settings t = .answered answer
  | .done ending => ending = w.ending settings d t

theorem onCourse_afterAttempt {retries : Nat}
    (h : w.lastFrom settings t retries = w.last settings t) :
    w.OnCourse settings d t (afterAttempt settings t retries (w.attempt t retries)) := by
  rw [lastFrom_eq] at h
  unfold afterAttempt
  split
  · rename_i hagain
    rw [if_pos hagain] at h
    exact h
  · rename_i hend
    rw [if_neg hend] at h
    cases hattempt : w.attempt t retries with
    | answered answer => exact (h.symm.trans hattempt)
    | failed e => simp [OnCourse, ending, ← h, hattempt]
    | panicked message => simp [OnCourse, ending, ← h, hattempt]

theorem onCourse_of_moved {stage : Stage} {i : Nat} {m : Move}
    (h : Housed settings tasks d home) (ht : t ∈ tasks) (hdir : d.SameDirectories s.folder)
    (hmove : w.move? t stage = some m) (hmoved : Moved settings t s i stage m s')
    (hcourse : w.OnCourse settings d t stage) :
    d.SameDirectories s'.folder ∧
      ∃ x, s'.stages = s.stages.set i x ∧ w.OnCourse settings d t x := by
  cases hmoved with
  | began hfree => exact ⟨hdir, _, rfl, rfl⟩
  | heard retries a =>
    obtain rfl : w.attempt t retries = a := by simpa [move?] using hmove
    exact ⟨hdir, _, rfl, onCourse_afterAttempt hcourse⟩
  | resumed retry => exact ⟨hdir, _, rfl, hcourse⟩
  | wrote answer fault =>
    obtain rfl : w.fault t = fault := by simpa [move?] using hmove
    have hkept := keep_sameDirectories (h.mono hdir) ht (w.fault t) answer
    refine ⟨hdir.trans hkept, _, rfl, ?_⟩
    have hlast : w.last settings t = .answered answer := hcourse
    simp only [OnCourse, ending, hlast, keep_snd_eq h ht hdir]

end World

/-- Every task that has been spawned is at a stage that suits it. -/
def State.All (tasks : List Task) (P : Task → Stage → Prop) (s : State) : Prop :=
  ∀ (i : Nat) (t : Task) (stage : Stage),
    tasks[i]? = some t → s.stages[i]? = some stage → P t stage

theorem State.All.spawn {P : Task → Stage → Prop} (h : s.All tasks P) (hqueued : ∀ t, P t .queued)
    (hstages : s'.stages = s.stages ++ [.queued]) : s'.All tasks P := by
  intro i t stage ht hstage
  rw [hstages, List.getElem?_append] at hstage
  split at hstage
  · exact h i t stage ht hstage
  · obtain rfl : stage = .queued :=
      List.mem_singleton.mp (List.mem_of_getElem? hstage)
    exact hqueued t

theorem State.All.set {P : Task → Stage → Prop} (h : s.All tasks P) {i : Nat} {x : Stage}
    (ht : tasks[i]? = some t) (hx : P t x) (hstages : s'.stages = s.stages.set i x) :
    s'.All tasks P := by
  intro j u stage hu hstage
  rw [hstages, List.getElem?_set] at hstage
  split at hstage
  · rename_i hij
    subst j
    split at hstage
    · cases hstage
      obtain rfl : t = u := Option.some.inj (ht.symm.trans hu)
      exact hx
    · cases hstage
  · exact h j u stage hu hstage

/-- The invariant of a run in the world `w` from the folder `d`. -/
structure Course (settings : Settings) (w : World) (tasks : List Task) (d : Folder) (s : State) :
    Prop where
  sameDirectories : d.SameDirectories s.folder
  onCourse : s.All tasks (w.OnCourse settings d)

theorem Course.start (settings : Settings) (w : World) (tasks : List Task) (d : Folder) :
    Course settings w tasks d (.start settings d) :=
  ⟨.refl d, fun i t stage _ hstage => by simp [State.start] at hstage⟩

theorem Course.step {e : Event} (h : Housed settings tasks d home)
    (hc : Course settings w tasks d s) (hallow : w.Allows tasks s e)
    (hstep : step? settings tasks s e = some s') : Course settings w tasks d s' := by
  cases e with
  | spawn =>
    obtain ⟨_, rfl⟩ := step?_spawn_iff.mp hstep
    exact ⟨hc.sameDirectories, hc.onCourse.spawn (fun _ => trivial) rfl⟩
  | move i m =>
    obtain ⟨t, stage, ht, hstage, hmove⟩ := hallow
    obtain ⟨t', stage', ht', hstage', hmoved⟩ := step?_move_iff.mp hstep
    obtain rfl : t = t' := Option.some.inj (ht.symm.trans ht')
    obtain rfl : stage = stage' := Option.some.inj (hstage.symm.trans hstage')
    obtain ⟨hdir, x, hstages, hx⟩ := World.onCourse_of_moved h (List.mem_of_getElem? ht)
      hc.sameDirectories hmove hmoved (hc.onCourse i t stage ht hstage)
    exact ⟨hdir, hc.onCourse.set ht hx hstages⟩

theorem Reach.course (h : Housed settings tasks d home)
    (hreach : Reach settings tasks (w.Allows tasks) (.start settings d) s) :
    Course settings w tasks d s := by
  induction hreach with
  | start => exact .start settings w tasks d
  | step _ hallow hstep ih => exact ih.step h hallow hstep

theorem Course.results (hc : Course settings w tasks d s) {results : List Result}
    (h : s.results? tasks = some results) : results = tasks.map (w.result settings d) := by
  obtain ⟨endings, hstages, hlength, rfl⟩ := results?_eq_some_iff.mp h
  have hendings : endings = tasks.map (w.ending settings d) := by
    apply List.ext_getElem (by simp [hlength])
    intro i hi hi'
    have ht : i < tasks.length := by omega
    have hstage : s.stages[i]? = some (.done endings[i]) := by simp [hstages, hi]
    have hcourse : endings[i] = w.ending settings d tasks[i] :=
      hc.onCourse i tasks[i] _ (List.getElem?_eq_getElem ht) hstage
    rw [List.getElem_map]
    exact hcourse
  rw [hendings, List.zipWith_map_right, List.zipWith_self]
  exact List.map_congr_left fun t _ => w.ending_result settings d t

/-- One after another, too, every task comes to what it comes to alone. -/
theorem loop_snd (h : Housed settings tasks d home) :
    (loop settings w tasks d).2 = tasks.map (w.result settings d) := by
  induction tasks generalizing d with
  | nil => rfl
  | cons t rest ih =>
    have hdir := finish_sameDirectories h List.mem_cons_self (w.fault t) (w.last settings t)
    have hrest : (loop settings w (t :: rest) d).2 = w.result settings d t ::
        (loop settings w rest (finish settings t (w.fault t) (w.last settings t) d).1).2 := rfl
    rw [hrest, ih (h.tail.mono hdir), List.map_cons]
    congr 1
    exact List.map_congr_left fun u hu => World.result_eq h.tail hu hdir

end Batch

end LabGrader
