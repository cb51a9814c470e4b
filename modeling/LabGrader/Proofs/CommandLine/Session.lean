import LabGrader.CommandLine.Run
import LabGrader.Proofs.Batch.Completion
import LabGrader.Proofs.Job.Fatal

/-!
# Sessions

What a session has done when it ends is found step by step: each step either goes through or ends
the session with what was done so far. A job has its fatal steps first. They ask nothing and write
nothing, so a job that fails leaves all files as they were, and one that gets past them goes through
whatever happens to its submissions.
-/

namespace LabGrader.CommandLine

namespace Session

variable {α β : Type} {c c' : Console}

theorem execute_bind (x : Session α) (next : α → Session β) (c : Console) :
    execute (x >>= next) c =
      match execute x c with
      | (.ok a, c') => execute (next a) c'
      | (.error e, c') => (.error e, c') := by
  unfold execute ExceptT.run StateT.run Id.run
  simp only [bind, ExceptT.bind, ExceptT.mk, StateT.bind]
  obtain ⟨result, c'⟩ := x c
  cases result <;> rfl

theorem execute_pure (x : α) (c : Console) : execute (pure x : Session α) c = (.ok x, c) := rfl

theorem execute_get (c : Console) : execute (get : Session Console) c = (.ok c, c) := rfl

theorem execute_modify (f : Console → Console) (c : Console) :
    execute (modify f : Session Unit) c = (.ok (), f c) := rfl

theorem execute_tell (lines : List Log.Line) (c : Console) :
    execute (tell lines) c = (.ok (), { c with log := c.log ++ lines }) := rfl

theorem execute_withFolder (f : Folder → Except GradingError α) (c : Console) :
    execute (withFolder f) c = (f c.folder, c) := by
  unfold withFolder
  rw [execute_bind, execute_get]
  simp only
  generalize f c.folder = result
  cases result <;> rfl

theorem execute_changeFolder (f : Folder → Folder × Except GradingError α) (c : Console) :
    execute (changeFolder f) c = ((f c.folder).2, { c with folder := (f c.folder).1 }) := by
  unfold changeFolder
  rw [execute_bind, execute_get]
  simp only
  generalize f c.folder = changed
  obtain ⟨folder, result⟩ := changed
  cases result <;> rfl

/-- Log lines do not end a session, and change nothing but the log. -/
theorem execute_forIn_tell (xs : List α) (lines : α → List Log.Line) (c : Console) :
    execute (forIn xs PUnit.unit fun x _ => do
      tell (lines x)
      return ForInStep.yield PUnit.unit) c =
      (.ok PUnit.unit, { c with log := c.log ++ xs.flatMap lines }) := by
  induction xs generalizing c with
  | nil => simp [execute_pure]
  | cons x xs ih =>
    rw [List.forIn_cons, execute_bind, execute_bind, execute_tell]
    simp only [execute_pure, ih]
    simp

section Runs
variable {settings : Settings} {paths : List Path} {e : GradingError} {j : Job}

theorem gradeBatch_error (w : Batch.World)
    (h : Batch.prepare settings paths c.folder = .error e) :
    ∃ made, c.folder.WidenedTo settings.breakdownFolder made ∧
      execute (gradeBatch settings w paths) c = (.error e, { c with folder := made }) := by
  unfold Batch.prepare Batch.begin at h
  unfold gradeBatch
  rw [execute_bind, execute_changeFolder]
  unfold Batch.begin
  cases hway : c.folder.makeWay settings.breakdownFolder with
  | mk made result =>
    cases result with
    | error cause =>
      rw [hway] at h
      cases h
      exact ⟨made, Folder.makeWay_widenedTo hway, rfl⟩
    | ok u =>
      rw [hway] at h
      cases h

theorem gradeBatch_ok (w : Batch.World) {p : Batch.Prepared}
    (h : Batch.prepare settings paths c.folder = .ok p) :
    ∃ c', execute (gradeBatch settings w paths) c = (.ok (Batch.grade settings w p).2, c') ∧
      c'.folder = (Batch.grade settings w p).1 := by
  obtain ⟨hmade, hplan⟩ := Batch.prepare_ok h
  unfold gradeBatch
  rw [execute_bind, execute_changeFolder]
  unfold Batch.begin
  rw [Folder.makeWay_of_makeDirectories hmade]
  simp only [execute_bind, execute_tell, execute_get, execute_modify, execute_forIn_tell,
    execute_pure, ← hplan]
  exact ⟨_, rfl, rfl⟩

/-- A job whose preparation fails ends with that failure. No question was asked, and of the folder
at most directories on the way to the breakdown folder are new. -/
theorem runJob_error (world : Text → Batch.World) (h : j.prepare settings c.folder = .error e) :
    ∃ made log, c.folder.WidenedTo settings.breakdownFolder made ∧
      execute (runJob settings world j) c = (.error e, { c with folder := made, log }) := by
  unfold runJob
  unfold Job.prepare Job.instructions at h
  rw [bind_assoc] at h
  -- the first step that fails ends the job, and only the last of them touches the folder
  rcases bind_error_iff.mp h with hread | ⟨⟨sheet, a⟩, hread, h⟩
  · refine ⟨c.folder, c.log, .refl _ _, ?_⟩
    simp only [execute_bind, execute_withFolder, hread]
  rw [pure_bind] at h
  rcases bind_error_iff.mp h with hfiles | ⟨paths, hfiles, h⟩
  · refine ⟨c.folder, c.log ++ [Log.assignmentLoaded a.name], .refl _ _, ?_⟩
    simp only [execute_bind, execute_withFolder, execute_tell, hread, hfiles]
  rcases bind_error_iff.mp h with hbatch | ⟨p, -, h⟩
  · obtain ⟨made, hwidened, hexecute⟩ := gradeBatch_error (world (a.instructions sheet))
      (c := { c with log := c.log ++ [Log.assignmentLoaded a.name] }) hbatch
    refine ⟨made, c.log ++ [Log.assignmentLoaded a.name], hwidened, ?_⟩
    simp only [execute_bind, execute_withFolder, execute_tell, hread, hfiles, hexecute]
  · cases h

theorem runJob_ok (world : Text → Batch.World) {instructions : Text} {p : Batch.Prepared}
    (h : j.prepare settings c.folder = .ok (instructions, p)) :
    (execute (runJob settings world j) c).1 =
        .ok (Batch.grade settings (world instructions) p).2 ∧
      (execute (runJob settings world j) c).2.folder =
        (Batch.grade settings (world instructions) p).1 := by
  obtain ⟨sheet, a, paths, hsheet, hassignment, hfiles, hbatch, rfl⟩ := Job.prepare_ok h
  have hread : j.read c.folder = .ok (sheet, a) := by
    simp only [Job.read, hsheet, hassignment]
    rfl
  unfold runJob
  simp only [execute_bind, execute_withFolder, execute_tell, hread, hfiles]
  obtain ⟨c', hgrade, hfolder⟩ := gradeBatch_ok (world (a.instructions sheet))
    (c := { c with log := c.log ++ [Log.assignmentLoaded a.name] }) hbatch
  rw [hgrade]
  exact ⟨rfl, hfolder⟩

theorem runJob_error_iff (world : Text → Batch.World) :
    (execute (runJob settings world j) c).1 = .error e ↔
      j.prepare settings c.folder = .error e := by
  constructor
  · intro h
    cases hprepare : j.prepare settings c.folder with
    | error e' =>
      obtain ⟨made, log, -, hjob⟩ := runJob_error world hprepare
      rw [hjob] at h
      cases h
      rfl
    | ok r =>
      obtain ⟨instructions, p⟩ := r
      rw [(runJob_ok world hprepare).1] at h
      cases h
  · intro h
    obtain ⟨made, log, -, hjob⟩ := runJob_error world h
    rw [hjob]

end Runs

/-- A grading session ends with the failure of its job and writes no report. -/
theorem grade_error (s : Setting) (env : Environment) {o : GradeOptions} {loaded : Settings}
    {access : Access} {e : GradingError}
    (hload : Settings.load env c.folder o.settings = .ok loaded)
    (haccess : (loaded.override o.overrides).access? = .ok access)
    (h : o.job.prepare (loaded.override o.overrides) c.folder = .error e) :
    ∃ made log, c.folder.WidenedTo (loaded.override o.overrides).breakdownFolder made ∧
      execute (grade s env o) c = (.error e, { c with folder := made, log }) := by
  obtain ⟨made, log, hwidened, hjob⟩ := runJob_error
    (world s (loaded.override o.overrides) access)
    (c := { c with log := c.log ++ [Log.modelUsed access.model] }) h
  refine ⟨made, log, hwidened, ?_⟩
  unfold grade
  simp only [execute_bind, execute_withFolder, execute_tell, hload, haccess, hjob]

end Session

/-- A program that is to grade and whose job fails reports the failure, and that is all it does. -/
theorem run_error {s : Setting} {verbose : Bool} {o : GradeOptions} {loaded : Settings}
    {access : Access} {e : GradingError}
    (hoptions : Options.ofArguments s.arguments = .ok ⟨verbose, .grade o⟩)
    (hload : Settings.load (EnvironmentFile.complete s.environment s.folder) s.folder o.settings =
      .ok loaded)
    (haccess : (loaded.override o.overrides).access? = .ok access)
    (h : o.job.prepare (loaded.override o.overrides) s.folder = .error e) :
    (run s).code = 1 ∧ (run s).console.errors = errorText e ∧ (run s).console.questions = 0 ∧
      s.folder.WidenedTo (loaded.override o.overrides).breakdownFolder (run s).console.folder := by
  obtain ⟨made, log, hwidened, hgrade⟩ := Session.grade_error s
    (EnvironmentFile.complete s.environment s.folder) (c := { folder := s.folder }) hload haccess h
  have hrun : run s = ⟨1, { folder := made, log, errors := errorText e },
      (log.filter (Log.Line.isShown verbose)).map Log.Line.text⟩ := by
    simp only [run, hoptions, hgrade]
    rfl
  rw [hrun]
  exact ⟨rfl, rfl, rfl, hwidened⟩

/-- A job fails exactly if there is a fatal cause, and it says which. Then no question was asked, and
at most directories on the way to the breakdown folder were made; so the program leaves a report that
is there as it was. Without such a cause the job goes through, whatever the judge does and whatever
the system refuses to write, and so does every order of its tasks. -/
theorem fails_only_before_grading (j : Job) (settings : Settings) (world : Text → Batch.World)
    (c : Console) :
    (∀ result c', Session.execute (Session.runJob settings world j) c = (result, c') →
      ((∃ e, result = .error e) ↔ ∃ e, j.Fatal settings c.folder e) ∧
      (∀ e, result = .error e →
        j.Fatal settings c.folder e ∧ c'.questions = c.questions ∧
        c.folder.WidenedTo settings.breakdownFolder c'.folder) ∧
      ((¬ ∃ e, j.Fatal settings c.folder e) →
        ∃ instructions p, j.prepare settings c.folder = .ok (instructions, p) ∧
          result = .ok (Batch.grade settings (world instructions) p).2 ∧
          (WellFounded fun s' s => ∃ e, Batch.step? settings p.plan.tasks s e = some s') ∧
          ∀ w s, p.Reaches settings w s → ∃ s' o,
            Batch.Reach settings p.plan.tasks (w.Allows p.plan.tasks) s s' ∧
            s'.outcome? p = some o)) ∧
    ∀ (s : Setting) (verbose : Bool) (o : GradeOptions) (loaded : Settings) (access : Access)
        (e : GradingError),
      Options.ofArguments s.arguments = .ok ⟨verbose, .grade o⟩ →
      Settings.load (EnvironmentFile.complete s.environment s.folder) s.folder o.settings =
        .ok loaded →
      (loaded.override o.overrides).access? = .ok access →
      o.job.Fatal (loaded.override o.overrides) s.folder e →
      (run s).code = 1 ∧ (run s).console.questions = 0 ∧
        (∀ x content, (run s).console.folder.entryAt? x = some (.file content) ↔
          s.folder.entryAt? x = some (.file content)) ∧
        ∀ content, s.folder.read o.output = .ok content →
          (run s).console.folder.read o.output = .ok content := by
  refine ⟨?_, ?_⟩
  · intro result c' hrun
    have hresult : result = (Session.execute (Session.runJob settings world j) c).1 := by
      rw [hrun]
    refine ⟨?iff, ?fatal, ?passed⟩
    case iff =>
      rw [← Job.exists_prepare_error_iff, hresult]
      exact exists_congr fun e => Session.runJob_error_iff world
    case fatal =>
      intro e he
      have hprepare := (Session.runJob_error_iff world).mp (hresult.symm.trans he)
      obtain ⟨made, log, hwidened, hjob⟩ := Session.runJob_error world hprepare
      obtain ⟨-, rfl⟩ := Prod.mk.inj (hrun.symm.trans hjob)
      exact ⟨Job.fatal_of_prepare_error hprepare, rfl, hwidened⟩
    case passed =>
      intro hnone
      cases hprepare : j.prepare settings c.folder with
      | error e => exact absurd ⟨e, Job.fatal_of_prepare_error hprepare⟩ hnone
      | ok prepared =>
        obtain ⟨instructions, p⟩ := prepared
        refine ⟨instructions, p, rfl, hresult.trans (Session.runJob_ok world hprepare).1,
          Batch.wellFounded_step? settings p.plan.tasks, ?_⟩
        intro w s hreach
        obtain ⟨s', results, hlater, hresults⟩ := hreach.exists_results
        exact ⟨s', _, hlater, congrArg (Option.map _) hresults⟩
  · intro s verbose o loaded access e hoptions hload haccess hfatal
    obtain ⟨e', hprepare⟩ := Job.prepare_error_of_fatal hfatal
    obtain ⟨hcode, -, hquestions, hwidened⟩ := run_error hoptions hload haccess hprepare
    exact ⟨hcode, hquestions, hwidened.widened.file_iff, fun content => hwidened.widened.read⟩

namespace Sample

def desk : Folder :=
  .ofList [(.ofString "/sheet.txt", .file (Text.utf8 "Compiles: 10 points".toList)),
    (.ofString "lab.txt", .file (Text.utf8 "Lab 1".toList)),
    (.ofString "/handed/Ada.java", .file (Text.utf8 "// Ada\n".toList)),
    (.ofString "Graded.csv", .file (Text.utf8 "Name\n".toList))]

/-- The way to the folder can be made, but not the folder, since its name is too long. -/
def longFolder : Path := ⟨"/kept/".toList ++ List.replicate 256 'x'⟩

def options : GradeOptions where
  job := ⟨.ofString "../sheet.txt", .ofString "lab.txt", .ofString "/handed"⟩
  output := .ofString "Graded.csv"
  format := none
  settings := none
  overrides := { breakdownFolder := some longFolder }

def setting : Setting where
  arguments := ["grade", "--scoring-sheet", "../sheet.txt", "--assignment", "lab.txt",
    "--submissions", "/handed", "--breakdown-dir"].map String.toList ++ [longFolder.text]
  environment := Environment.ofList [("OPENAI_API_KEY".toList, "key".toList)]
  folder := desk
  colored := false
  service _ _ _ := none

end Sample

theorem fails_only_before_grading_long_folder :
    ∃ loaded e, Sample.options.job.Fatal loaded Sample.desk e ∧
      (run Sample.setting).code = 1 ∧ (run Sample.setting).console.questions = 0 ∧
      (run Sample.setting).console.folder.isDirectory ["kept".toList] = true ∧
      (run Sample.setting).console.folder.read (.ofString "Graded.csv") =
        .ok (Text.utf8 "Name\n".toList) := by
  have hoptions : Options.ofArguments Sample.setting.arguments = .ok ⟨false, .grade Sample.options⟩ := by
    decide +kernel
  let env := EnvironmentFile.complete Sample.setting.environment Sample.desk
  obtain ⟨access, haccess⟩ : ∃ access,
      ((Settings.ofEnvironment env).override Sample.options.overrides).access? = .ok access :=
    ⟨_, rfl⟩
  have hway : (Sample.desk.makeWay Sample.longFolder).2 = .error .nameTooLong := by
    decide +kernel
  have hfatal : Sample.options.job.Fatal
      ((Settings.ofEnvironment env).override Sample.options.overrides) Sample.desk
      (.breakdownFolderNotMade Sample.longFolder .nameTooLong) :=
    .breakdownFolderNotMade (Folder.makeDirectories_error_iff.mpr hway)
  have hread : Sample.desk.read Sample.options.output = .ok (Text.utf8 "Name\n".toList) := by
    decide +kernel
  have hkept : (run Sample.setting).console.folder.isDirectory ["kept".toList] = true := by
    decide +kernel
  obtain ⟨hcode, hquestions, -, hreport⟩ := (fails_only_before_grading Sample.options.job {}
    (fun _ => { attempt := fun _ _ => .failed .emptyResponse }) { folder := Sample.desk }).2
    Sample.setting false Sample.options (Settings.ofEnvironment env) access _ hoptions rfl haccess
    hfatal
  exact ⟨_, _, hfatal, hcode, hquestions, hkept, hreport _ hread⟩

end LabGrader.CommandLine
