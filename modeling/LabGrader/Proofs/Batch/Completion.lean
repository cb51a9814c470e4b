import LabGrader.Proofs.Batch.Permits
import LabGrader.Proofs.Judge.Retry

/-!
# A batch comes to its end

Every event brings a batch closer to its end, whichever event it is, and before the end some event
is possible. So no run goes on forever, and every run can be brought to its results.
-/

namespace LabGrader.Batch

variable {settings : Settings} {w : World} {tasks : List Task} {d : Folder} {s s' : State} {t : Task}

theorem mapM_ending?_eq_some_iff {stages : List Stage} {endings : List Ending} :
    stages.mapM Stage.ending? = some endings ↔ stages = endings.map .done := by
  induction stages generalizing endings with
  | nil => simp [eq_comm]
  | cons stage rest ih =>
    simp only [List.mapM_cons, Option.bind_eq_bind, Option.bind_eq_some_iff, Option.pure_def,
      Option.some.injEq]
    constructor
    · rintro ⟨e, he, others, hothers, rfl⟩
      cases stage <;> simp only [Stage.ending?, reduceCtorEq] at he
      cases he
      rw [ih.mp hothers]
      rfl
    · intro h
      cases endings with
      | nil => cases h
      | cons e others =>
        obtain ⟨rfl, hrest⟩ := List.cons.inj h
        exact ⟨e, rfl, others, ih.mpr hrest, rfl⟩

theorem results?_eq_some_iff {results : List Result} :
    s.results? tasks = some results ↔
      ∃ endings : List Ending, s.stages = endings.map .done ∧ endings.length = tasks.length ∧
        List.zipWith (fun t e => e.result t.submission.path) tasks endings = results := by
  simp only [State.results?, Option.bind_eq_bind, Option.bind_eq_some_iff,
    mapM_ending?_eq_some_iff, Option.ite_none_right_eq_some, Option.some.injEq]

/-- An upper bound for the number of moves that a task has yet to make. -/
def Stage.rank (settings : Settings) : Stage → Nat
  | .queued => 2 * settings.retry.maxRetries + 3
  | .asking retries => 2 * (settings.retry.maxRetries - retries) + 2
  | .pausing retry => 2 * (settings.retry.maxRetries - retry) + 3
  | .answered _ => 1
  | .done _ => 0

def ranks (settings : Settings) : List Stage → Nat
  | [] => 0
  | stage :: rest => stage.rank settings + ranks settings rest

/-- An upper bound for the number of events that are yet to come. -/
def State.rank (settings : Settings) (tasks : List Task) (s : State) : Nat :=
  (tasks.length - s.stages.length) * (2 * settings.retry.maxRetries + 4) + ranks settings s.stages

theorem rank_afterAttempt_lt (t : Task) (retries : Nat) (a : Attempt) :
    (afterAttempt settings t retries a).rank settings < (Stage.asking retries).rank settings := by
  unfold afterAttempt
  split
  · rename_i hagain
    have hlt : retries < settings.retry.maxRetries := by
      by_contra hle
      rw [RetryPolicy.asksAgain_of_le (Nat.le_of_not_lt hle)] at hagain
      cases hagain
    simp only [Stage.rank]
    omega
  · cases a <;> simp only [Stage.rank] <;> omega

theorem Moved.rank_lt {stage : Stage} {i : Nat} {m : Move} (h : Moved settings t s i stage m s') :
    ∃ x, s'.stages = s.stages.set i x ∧ x.rank settings < stage.rank settings := by
  cases h with
  | began hfree => exact ⟨_, rfl, by simp [Stage.rank]⟩
  | heard retries a => exact ⟨_, rfl, rank_afterAttempt_lt t retries a⟩
  | resumed retry => exact ⟨_, rfl, by simp [Stage.rank]⟩
  | wrote answer fault => exact ⟨_, rfl, by simp [Stage.rank]⟩

theorem ranks_concat (stages : List Stage) (x : Stage) :
    ranks settings (stages ++ [x]) = ranks settings stages + x.rank settings := by
  induction stages with
  | nil => simp [ranks]
  | cons stage rest ih =>
    simp only [List.cons_append, ranks, ih]
    omega

theorem ranks_set_lt {stages : List Stage} {i : Nat} {stage x : Stage}
    (h : stages[i]? = some stage) (hlt : x.rank settings < stage.rank settings) :
    ranks settings (stages.set i x) < ranks settings stages := by
  induction stages generalizing i with
  | nil => simp at h
  | cons first rest ih =>
    cases i with
    | zero =>
      obtain rfl : first = stage := by simpa using h
      simpa [ranks] using hlt
    | succ i =>
      have := ih (i := i) (by simpa using h)
      simpa [ranks] using this

/-- Every event brings the batch closer to its end, so no run goes on forever. -/
theorem step?_rank_lt {e : Event} (h : step? settings tasks s e = some s') :
    s'.rank settings tasks < s.rank settings tasks := by
  cases e with
  | spawn =>
    obtain ⟨hlt, rfl⟩ := step?_spawn_iff.mp h
    obtain ⟨n, hn⟩ : ∃ n, tasks.length - s.stages.length = n + 1 :=
      ⟨tasks.length - s.stages.length - 1, by omega⟩
    have hn' : tasks.length - (s.stages.length + 1) = n := by omega
    simp only [State.rank, List.length_append, List.length_singleton, ranks_concat, hn, hn',
      Stage.rank, Nat.add_mul]
    omega
  | move i m =>
    obtain ⟨t, stage, _, hstage, hmoved⟩ := step?_move_iff.mp h
    obtain ⟨x, hstages, hlt⟩ := hmoved.rank_lt
    have hranks := ranks_set_lt hstage hlt
    simp only [State.rank, hstages, List.length_set]
    omega

theorem wellFounded_step? (settings : Settings) (tasks : List Task) :
    WellFounded fun s' s => ∃ e, step? settings tasks s e = some s' :=
  Subrelation.wf (fun ⟨_, h⟩ => step?_rank_lt h) (measure (State.rank settings tasks)).wf

theorem exists_endings {stages : List Stage}
    (h : ∀ stage ∈ stages, ∃ ending, stage = .done ending) :
    ∃ endings : List Ending, stages = endings.map .done := by
  induction stages with
  | nil => exact ⟨[], rfl⟩
  | cons stage rest ih =>
    obtain ⟨e, rfl⟩ := h stage List.mem_cons_self
    obtain ⟨others, rfl⟩ := ih fun x hx => h x (List.mem_cons_of_mem _ hx)
    exact ⟨e :: others, rfl⟩

theorem exists_results_of_all_done (hlen : s.stages.length ≤ tasks.length)
    (h : ∀ i < tasks.length, ∃ ending, s.stages[i]? = some (.done ending)) :
    ∃ results, s.results? tasks = some results := by
  have hge : tasks.length ≤ s.stages.length := by
    by_contra hlt
    obtain ⟨ending, hending⟩ := h s.stages.length (by omega)
    simp at hending
  obtain ⟨endings, hendings⟩ : ∃ endings : List Ending, s.stages = endings.map .done := by
    apply exists_endings
    intro stage hmem
    obtain ⟨i, hi⟩ := List.mem_iff_getElem?.mp hmem
    obtain ⟨hlt, _⟩ := List.getElem?_eq_some_iff.mp hi
    obtain ⟨ending, hending⟩ := h i (by omega)
    exact ⟨ending, Option.some.inj (hi.symm.trans hending)⟩
  have hlength : endings.length = tasks.length := by
    have := congrArg List.length hendings
    simp only [List.length_map] at this
    omega
  exact ⟨_, results?_eq_some_iff.mpr ⟨endings, hendings, hlength, rfl⟩⟩

theorem exists_results_or_step (w : World)
    (h : Reach settings tasks (w.Allows tasks) (.start settings d) s) :
    (∃ results, s.results? tasks = some results) ∨
      ∃ e s', w.Allows tasks s e ∧ step? settings tasks s e = some s' := by
  by_cases hall : ∀ i < tasks.length, ∃ ending, s.stages[i]? = some (.done ending)
  · exact Or.inl (exists_results_of_all_done h.length_stages_le hall)
  · push Not at hall
    obtain ⟨i, hi, hdone⟩ := hall
    refine Or.inr ?_
    rcases not_done_cases w h.length_stages_le h.free_add_permitsHeld hi hdone with
      ⟨m, s', hallow, hstep⟩ | ⟨_, s', hstep⟩ | ⟨_, _, j, m, s', hallow, hstep⟩
    · exact ⟨.move i m, s', hallow, hstep⟩
    · exact ⟨.spawn, s', trivial, hstep⟩
    · exact ⟨.move j m, s', hallow, hstep⟩

theorem Reach.trans {allowed : State → Event → Prop} {s₀ s₁ s₂ : State}
    (h : Reach settings tasks allowed s₀ s₁) (h' : Reach settings tasks allowed s₁ s₂) :
    Reach settings tasks allowed s₀ s₂ := by
  induction h' with
  | start => exact h
  | step _ hallow hstep ih => exact .step ih hallow hstep

/-- However far a run has got, it can be brought to its results. -/
theorem Reach.exists_results (h : Reach settings tasks (w.Allows tasks) (.start settings d) s) :
    ∃ s' results, Reach settings tasks (w.Allows tasks) s s' ∧ s'.results? tasks = some results := by
  induction hrank : s.rank settings tasks using Nat.strongRecOn generalizing s with
  | ind rank ih =>
    rcases exists_results_or_step w h with ⟨results, hresults⟩ | ⟨e, s₁, hallow, hstep⟩
    · exact ⟨s, results, .start, hresults⟩
    · obtain ⟨s₂, results, hreach, hresults⟩ :=
        ih _ (hrank ▸ step?_rank_lt hstep) (.step h hallow hstep) rfl
      exact ⟨s₂, results, (Reach.step .start hallow hstep).trans hreach, hresults⟩

end LabGrader.Batch
