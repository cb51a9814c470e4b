import LabGrader.Proofs.Batch.Step

/-!
# Permits

The permits that are free and those that tasks hold always make up the number that was given out at
the start. So no more questions than that are with the judge, and while a task is left unfinished
some task can go on.
-/

namespace LabGrader.Batch

variable {settings : Settings} {tasks : List Task} {d : Folder} {s s' : State}

theorem afterAttempt_ne_queued (t : Task) (retries : Nat) (a : Attempt) :
    afterAttempt settings t retries a ≠ .queued := by
  unfold afterAttempt
  split
  · simp
  · cases a <;> simp

/-- Only a task that waits for its permit neither holds one nor has given one back. -/
theorem Stage.returned_add_holdsPermit {x : Stage} (h : x ≠ .queued) :
    x.returned + x.holdsPermit.toNat = 1 := by
  cases x <;> simp_all [Stage.returned, Stage.holdsPermit]

theorem toNat_eq_ite (b : Bool) : b.toNat = if b then 1 else 0 := by
  cases b <;> rfl

theorem permitsHeld_put {i : Nat} {stage : Stage} (h : s.stages[i]? = some stage) (x : Stage) :
    (s.put i x).permitsHeld + stage.holdsPermit.toNat = s.permitsHeld + x.holdsPermit.toNat := by
  obtain ⟨hi, rfl⟩ := List.getElem?_eq_some_iff.mp h
  have hle := List.boole_getElem_le_countP (p := Stage.holdsPermit) hi
  have hset := List.countP_set (p := Stage.holdsPermit) (a := x) hi
  simp only [State.permitsHeld, State.put, hset, toNat_eq_ite]
  omega

theorem accounts_put {i : Nat} {stage x : Stage} (h : s.stages[i]? = some stage)
    (hold : stage.holdsPermit = true) (hx : x ≠ .queued) :
    (s.put i x).free + (s.put i x).permitsHeld = s.free + s.permitsHeld := by
  have hheld := permitsHeld_put h x
  have hone := Stage.returned_add_holdsPermit hx
  have hfree : (s.put i x).free = s.free + x.returned := rfl
  rw [hold] at hheld
  simp only [Bool.toNat_true] at hheld
  omega

theorem Moved.accounts {t : Task} {i : Nat} {stage : Stage} {m : Move}
    (h : Moved settings t s i stage m s') (hstage : s.stages[i]? = some stage) :
    s'.free + s'.permitsHeld = s.free + s.permitsHeld := by
  cases h with
  | began hfree =>
    have hheld := permitsHeld_put hstage (.asking 0)
    change s.free - 1 + (s.put i (.asking 0)).permitsHeld = _
    simp only [Stage.holdsPermit, Bool.toNat_true, Bool.toNat_false] at hheld
    omega
  | heard retries a => exact accounts_put hstage rfl (afterAttempt_ne_queued t retries a)
  | resumed retry => exact accounts_put hstage rfl (by simp)
  | wrote answer fault => exact accounts_put hstage rfl (by simp)

theorem step?_accounts {e : Event} (h : step? settings tasks s e = some s') :
    s'.free + s'.permitsHeld = s.free + s.permitsHeld := by
  cases e with
  | spawn =>
    obtain ⟨_, rfl⟩ := step?_spawn_iff.mp h
    simp [State.permitsHeld, Stage.holdsPermit]
  | move i m =>
    obtain ⟨t, stage, _, hstage, hm⟩ := step?_move_iff.mp h
    exact hm.accounts hstage

section Runs
variable {allowed : State → Event → Prop}

theorem Reach.free_add_permitsHeld (h : Reach settings tasks allowed (.start settings d) s) :
    s.free + s.permitsHeld = settings.permits := by
  induction h with
  | start => simp [State.start, State.permitsHeld]
  | step _ _ hstep ih => exact (step?_accounts hstep).trans ih

theorem Reach.length_stages_le (h : Reach settings tasks allowed (.start settings d) s) :
    s.stages.length ≤ tasks.length := by
  induction h with
  | start => simp [State.start]
  | @step s s' e _ _ hstep ih =>
    cases e with
    | spawn =>
      obtain ⟨hlt, rfl⟩ := step?_spawn_iff.mp hstep
      simp
      omega
    | move i m =>
      obtain ⟨t, stage, _, _, hm⟩ := step?_move_iff.mp hstep
      cases hm <;> simpa [State.put] using ih

end Runs

theorem Stage.holdsPermit_of_isAsking {x : Stage} (h : x.isAsking = true) :
    x.holdsPermit = true := by
  cases x <;> simp_all [Stage.isAsking, Stage.holdsPermit]

theorem inFlight_le_permitsHeld (s : State) : s.inFlight ≤ s.permitsHeld :=
  List.countP_mono_left fun _ _ h => Stage.holdsPermit_of_isAsking h

theorem permits_pos (settings : Settings) : 1 ≤ settings.permits := Nat.le_max_left _ _

theorem permits_le_maxPermits (settings : Settings) : settings.permits ≤ Settings.maxPermits := by
  have h : 1 ≤ Settings.maxPermits := by decide
  unfold Settings.permits
  omega

/-- A task that is not done makes its next move, unless it waits while no permit is free. -/
theorem exists_moved (w : World) (t : Task) (i : Nat) {stage : Stage}
    (hdone : ∀ ending, stage ≠ .done ending) (hfree : stage = .queued → 0 < s.free) :
    ∃ m s', w.move? t stage = some m ∧ Moved settings t s i stage m s' := by
  cases stage with
  | queued => exact ⟨_, _, rfl, .began (hfree rfl)⟩
  | asking retries => exact ⟨_, _, rfl, .heard retries _⟩
  | pausing retry => exact ⟨_, _, rfl, .resumed retry⟩
  | answered answer => exact ⟨_, _, rfl, .wrote answer _⟩
  | done ending => exact absurd rfl (hdone ending)

theorem exists_step_of_moved {w : World} {t : Task} {i : Nat} {stage : Stage}
    (ht : tasks[i]? = some t) (hstage : s.stages[i]? = some stage)
    (h : ∃ m s', w.move? t stage = some m ∧ Moved settings t s i stage m s') :
    ∃ m s', w.Allows tasks s (.move i m) ∧ step? settings tasks s (.move i m) = some s' := by
  obtain ⟨m, s', hmove, hmoved⟩ := h
  exact ⟨m, s', ⟨t, stage, ht, hstage, hmove⟩, step?_move_iff.mpr ⟨t, stage, ht, hstage, hmoved⟩⟩

theorem exists_step_of_holdsPermit (w : World) {i : Nat} {stage : Stage}
    (hlen : s.stages.length ≤ tasks.length) (hstage : s.stages[i]? = some stage)
    (hold : stage.holdsPermit = true) :
    ∃ m s', w.Allows tasks s (.move i m) ∧ step? settings tasks s (.move i m) = some s' := by
  obtain ⟨hi, _⟩ := List.getElem?_eq_some_iff.mp hstage
  have ht : tasks[i]? = some tasks[i] := List.getElem?_eq_getElem (by omega)
  refine exists_step_of_moved ht hstage (exists_moved w _ i ?_ ?_)
  · rintro ending rfl
    simp [Stage.holdsPermit] at hold
  · rintro rfl
    simp [Stage.holdsPermit] at hold

theorem exists_holdsPermit (h : s.free + s.permitsHeld = settings.permits) (hfree : s.free = 0) :
    ∃ (i : Nat) (stage : Stage), s.stages[i]? = some stage ∧ stage.holdsPermit = true := by
  have hpos : 0 < s.permitsHeld := by
    have := permits_pos settings
    omega
  obtain ⟨stage, hmem, hold⟩ := List.countP_pos_iff.mp hpos
  obtain ⟨i, hi⟩ := List.mem_iff_getElem?.mp hmem
  exact ⟨i, stage, hi, hold⟩

/-- A task that is not done goes on, or is still to be spawned, or waits for a permit that a task
holds which goes on. -/
theorem not_done_cases (w : World) (hlen : s.stages.length ≤ tasks.length)
    (hsum : s.free + s.permitsHeld = settings.permits) {i : Nat} (hi : i < tasks.length)
    (hdone : ∀ ending, s.stages[i]? ≠ some (.done ending)) :
    (∃ m s', w.Allows tasks s (.move i m) ∧ step? settings tasks s (.move i m) = some s') ∨
    (s.stages.length ≤ i ∧ ∃ s', step? settings tasks s .spawn = some s') ∨
    (s.stages[i]? = some .queued ∧ s.free = 0 ∧
      ∃ j m s', w.Allows tasks s (.move j m) ∧ step? settings tasks s (.move j m) = some s') := by
  by_cases hspawned : i < s.stages.length
  · have hstage : s.stages[i]? = some s.stages[i] := List.getElem?_eq_getElem hspawned
    have ht : tasks[i]? = some tasks[i] := List.getElem?_eq_getElem hi
    by_cases hwait : s.stages[i] = .queued ∧ s.free = 0
    · obtain ⟨j, stage, hj, hold⟩ := exists_holdsPermit hsum hwait.2
      refine Or.inr (Or.inr ⟨hwait.1 ▸ hstage, hwait.2, j, ?_⟩)
      exact exists_step_of_holdsPermit w hlen hj hold
    · refine Or.inl (exists_step_of_moved ht hstage (exists_moved w _ i ?_ ?_))
      · intro ending h
        exact hdone ending (hstage.trans (congrArg some h))
      · intro h
        exact Nat.pos_of_ne_zero fun hfree => hwait ⟨h, hfree⟩
  · exact Or.inr (Or.inl ⟨by omega, _, step?_spawn_iff.mpr ⟨by omega, rfl⟩⟩)

/-- Whatever limit is set, and whatever has happened: the permits given out at the start are a
number that can be given out, they are all accounted for, no more questions than that are with the
judge, and no task is left waiting while nothing can go on. -/
theorem permits_bound_and_progress
    (h : Reach settings tasks (fun _ _ => True) (.start settings d) s) :
    (1 ≤ settings.permits ∧ settings.permits ≤ Settings.maxPermits) ∧
    (s.inFlight ≤ s.permitsHeld ∧ s.permitsHeld ≤ settings.permits) ∧
    s.free + s.permitsHeld = settings.permits ∧
    ∀ (w : World) (i : Nat), i < tasks.length →
      (∀ ending, s.stages[i]? ≠ some (.done ending)) →
      (∃ m s', w.Allows tasks s (.move i m) ∧ step? settings tasks s (.move i m) = some s') ∨
      (s.stages.length ≤ i ∧ ∃ s', step? settings tasks s .spawn = some s') ∨
      (s.stages[i]? = some .queued ∧ s.free = 0 ∧
        ∃ j m s', w.Allows tasks s (.move j m) ∧ step? settings tasks s (.move j m) = some s') := by
  have hsum := h.free_add_permitsHeld
  refine ⟨⟨permits_pos settings, permits_le_maxPermits settings⟩,
    ⟨inFlight_le_permitsHeld s, by omega⟩, hsum, ?_⟩
  intro w i hi hdone
  exact not_done_cases w h.length_stages_le hsum hi hdone

namespace Sample

/-- A limit of zero still lets one task in. -/
def tight : Settings := { concurrency := 0 }

def task (author : String) : Task := ⟨⟨.ofString "Lab.java", author.toList⟩, author.toList⟩

/-- The first task has broken off, a question about the second one is with the judge. -/
def afterPanic : State := ⟨[.done (.broken "boom".toList), .asking 0], 0, .empty⟩

end Sample

theorem permits_after_panic :
    Reach Sample.tight [Sample.task "Ada", Sample.task "Bob"] (fun _ _ => True)
      (.start Sample.tight .empty) Sample.afterPanic ∧
    Sample.afterPanic.inFlight = 1 ∧
    Sample.afterPanic.free + Sample.afterPanic.permitsHeld = Sample.tight.permits ∧
    ∃ e s', step? Sample.tight [Sample.task "Ada", Sample.task "Bob"] Sample.afterPanic e =
      some s' := by
  have h : Reach Sample.tight [Sample.task "Ada", Sample.task "Bob"] (fun _ _ => True)
      (.start Sample.tight .empty) Sample.afterPanic :=
    reach_iff_exists_events.mpr
      ⟨[.spawn, .spawn, .move 0 .begin, .move 0 (.hear (.panicked "boom".toList)),
        .move 1 .begin], rfl⟩
  obtain ⟨_, _, hsum, hgoes⟩ := permits_bound_and_progress h
  refine ⟨h, by decide, hsum, ?_⟩
  have hdone : ∀ ending, Sample.afterPanic.stages[1]? ≠ some (.done ending) := by
    simp [Sample.afterPanic]
  rcases hgoes ⟨fun _ _ => .answered [], fun _ => none⟩ 1 (by decide) hdone with
    ⟨m, s', _, hstep⟩ | ⟨_, s', hstep⟩ | ⟨_, _, j, m, s', _, hstep⟩
  · exact ⟨_, s', hstep⟩
  · exact ⟨_, s', hstep⟩
  · exact ⟨_, s', hstep⟩

end LabGrader.Batch
