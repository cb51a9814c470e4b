import LabGrader.Batch.Step
import Mathlib.Data.List.Induction

/-!
# What an event does

`Moved` says of each stage which move is possible there and what it leaves behind. Everything
else about runs is derived from it and from the equation for spawning.
-/

namespace LabGrader.Batch

/-- A move of the task `t` with the number `i`, which has got to a stage. -/
inductive Moved (settings : Settings) (t : Task) (s : State) (i : Nat) :
    Stage → Move → State → Prop where
  | began : 0 < s.free →
      Moved settings t s i .queued .begin { s.put i (.asking 0) with free := s.free - 1 }
  | heard (retries : Nat) (a : Attempt) :
      Moved settings t s i (.asking retries) (.hear a) (s.put i (afterAttempt settings t retries a))
  | resumed (retry : Nat) :
      Moved settings t s i (.pausing retry) .resume (s.put i (.asking retry))
  | wrote (answer : Text) (fault : Option SystemError) :
      Moved settings t s i (.answered answer) (.write fault)
        { s.put i (.done (.returned (keep settings t fault answer s.folder).2)) with
          folder := (keep settings t fault answer s.folder).1 }

variable {settings : Settings} {tasks : List Task} {s s' : State}

theorem step?_spawn_iff :
    step? settings tasks s .spawn = some s' ↔
      s.stages.length < tasks.length ∧ s' = { s with stages := s.stages ++ [.queued] } := by
  simp [step?, eq_comm (a := s')]

theorem step?_move_iff {i : Nat} {m : Move} :
    step? settings tasks s (.move i m) = some s' ↔
      ∃ t stage, tasks[i]? = some t ∧ s.stages[i]? = some stage ∧
        Moved settings t s i stage m s' := by
  constructor
  · intro h
    simp only [step?, Option.bind_eq_bind, Option.bind_eq_some_iff] at h
    obtain ⟨t, ht, stage, hstage, h⟩ := h
    refine ⟨t, stage, ht, hstage, ?_⟩
    split at h
    · split at h
      · rename_i hfree
        cases h
        exact .began hfree
      · cases h
    · cases h
      exact .heard _ _
    · cases h
      exact .resumed _
    · cases h
      exact .wrote _ _
    · cases h
  · rintro ⟨t, stage, ht, hstage, h⟩
    simp only [step?, ht, hstage, Option.bind_eq_bind, Option.bind_some]
    cases h with
    | began hfree => simp [hfree]
    | heard => rfl
    | resumed => rfl
    | wrote => rfl

/-- Without a restriction the states that are reached are those that a row of events leads to. -/
theorem reach_iff_exists_events {start : State} :
    Reach settings tasks (fun _ _ => True) start s ↔
      ∃ events : List Event, events.foldlM (step? settings tasks) start = some s := by
  constructor
  · intro h
    induction h with
    | start => exact ⟨[], rfl⟩
    | @step s s' e _ _ hstep ih =>
      obtain ⟨events, hevents⟩ := ih
      exact ⟨events ++ [e], by simp [List.foldlM_append, hevents, hstep]⟩
  · rintro ⟨events, hevents⟩
    induction events using List.reverseRecOn generalizing s with
    | nil =>
      cases hevents
      exact .start
    | append_singleton events e ih =>
      simp only [List.foldlM_append, Option.bind_eq_bind, Option.bind_eq_some_iff] at hevents
      obtain ⟨s₁, hs₁, hstep⟩ := hevents
      simp only [List.foldlM_cons, List.foldlM_nil, bind_pure] at hstep
      exact .step (ih hs₁) trivial hstep

end LabGrader.Batch
