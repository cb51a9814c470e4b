import LabGrader.Proofs.Batch.Authors
import LabGrader.Proofs.Breakdown.Claims
import LabGrader.Proofs.Breakdown.Repeats
import LabGrader.Proofs.Folder.Limits

/-!
# Answers that can be kept

An answer is kept in a file whose name is made of the author's name, or else of the stem of the
submission's file, and perhaps of that stem and a number. Nothing cuts such a name. In a breakdown
folder that takes every name of the length that is allowed, a task with an answer has its record if
its name is not longer than that; if it is, the answer is lost.
-/

namespace LabGrader

namespace Breakdown

variable {identity : Text} {p : Path} {taken : List Text} {n : Nat}

theorem byteCount_candidate_le (base : Text) (n : Nat) :
    Text.byteCount (candidate base n) ≤
      Text.byteCount base + 1 + (Text.ofNat (n + 1)).length + Text.byteCount suffix := by
  have hdash : '-'.utf8Size = 1 := by decide
  unfold candidate
  split
  · rw [Text.byteCount_append]
    omega
  · rw [Text.byteCount_append, Text.byteCount_append, Text.byteCount_cons, hdash,
      Text.byteCount_ofNat]
    omega

/-- The most bytes that a name with a number up to `n` has. -/
def longest (identity : Text) (p : Path) (n : Nat) : Nat :=
  Text.byteCount (author identity p) + Text.byteCount (stemOf p) + (Text.ofNat n).length +
    Text.byteCount suffix + 2

theorem byteCount_wanted_le (identity : Text) (p : Path) (n : Nat) :
    Text.byteCount (wanted identity p n) ≤ longest identity p n := by
  have hdash : '-'.utf8Size = 1 := by decide
  unfold longest
  cases n with
  | zero =>
    change Text.byteCount (plainName identity p) ≤ _
    rw [plainName_eq, Text.byteCount_append]
    omega
  | succ n =>
    have hbase := Text.byteCount_le_of_sublist (prefix_bare identity p).sublist
    have hcandidate := byteCount_candidate_le (bare identity p ++ '-' :: stemOf p) n
    rw [Text.byteCount_append, Text.byteCount_cons, hdash] at hcandidate
    change Text.byteCount (candidate (bare identity p ++ '-' :: stemOf p) n) ≤ _
    omega

theorem longest_mono {m : Nat} (h : m ≤ n) : longest identity p m ≤ longest identity p n := by
  have := Text.length_ofNat_mono h
  unfold longest
  omega

/-- However many names are taken before, each claim is for a wanted name with a number that is not
larger than the count of those names and its own. -/
theorem exists_wanted_of_claimAll {items : List (Text × Path)} {j : Nat} {name : Text}
    (h : (claimAll taken items)[j]? = some name) (hitem : items[j]? = some (identity, p)) :
    ∃ n ≤ taken.length + j + 1, name = wanted identity p n := by
  induction items generalizing taken j with
  | nil => cases hitem
  | cons item rest ih =>
    obtain ⟨identity', p'⟩ := item
    rw [claimAll_cons] at h
    cases j with
    | zero =>
      cases hitem
      cases h
      obtain ⟨n, hn, hname, -⟩ := exists_claim_eq taken identity p
      exact ⟨n, by omega, hname⟩
    | succ j =>
      obtain ⟨n, hn, hname⟩ := ih h hitem
      rw [List.length_cons] at hn
      exact ⟨n, by omega, hname⟩

end Breakdown

namespace Batch

variable {settings : Settings} {w : World} {paths : List Path} {d : Folder} {p : Prepared}
  {s : State} {t : Task} {i : Nat} {answer : Text}

/-- The name of a task is one of those that its submission may take, with a number that is not larger
than the count of the tasks. -/
theorem exists_wanted (h : prepare settings paths d = .ok p) (ht : p.plan.tasks[i]? = some t) :
    ∃ n ≤ p.plan.tasks.length,
      t.breakdown = Breakdown.wanted t.submission.identity t.path n := by
  obtain ⟨hi, -⟩ := List.getElem?_eq_some_iff.mp ht
  have hname : (Breakdown.claimAll []
      (p.plan.tasks.map fun t => (t.submission.identity, t.path)))[i]? = some t.breakdown := by
    rw [← prepare_breakdowns h, List.getElem?_map, ht]
    rfl
  have hitem : (p.plan.tasks.map fun t => (t.submission.identity, t.path))[i]? =
      some (t.submission.identity, t.path) := by
    rw [List.getElem?_map, ht]
    rfl
  obtain ⟨n, hn, hwanted⟩ := Breakdown.exists_wanted_of_claimAll hname hitem
  rw [List.length_nil] at hn
  exact ⟨n, by omega, hwanted⟩

theorem byteCount_breakdown_le (h : prepare settings paths d = .ok p)
    (ht : p.plan.tasks[i]? = some t) :
    Text.byteCount t.breakdown ≤
      Breakdown.longest t.submission.identity t.path p.plan.tasks.length := by
  obtain ⟨n, hn, hname⟩ := exists_wanted h ht
  rw [hname]
  exact (Breakdown.byteCount_wanted_le _ _ n).trans (Breakdown.longest_mono hn)

theorem noZero_path_of_read {q : Path} {submission : Submission}
    (h : Submission.read d q = .ok submission) : '\x00' ∉ q.text := by
  unfold Submission.read at h
  split at h
  · cases h
  · rename_i content hread
    obtain ⟨l, hlocate, -⟩ := Folder.read_iff.mp hread
    exact (Folder.checkPath_eq_ok_iff.mp (Folder.locate_iff.mp hlocate).1).1

theorem noZero_breakdown (h : prepare settings paths d = .ok p)
    (ht : p.plan.tasks[i]? = some t) : '\x00' ∉ t.breakdown := by
  obtain ⟨n, -, hname⟩ := exists_wanted h ht
  rw [hname]
  apply Breakdown.noZero_wanted
  · exact Breakdown.noZero_identityOf _
  · exact noZero_path_of_read (prepare_read h (List.mem_of_getElem? ht))

/-- Nothing but the length of its name can keep a task from keeping its answer, where the breakdown
folder has room and is writable and no directory stands in the place of the file. -/
theorem refusal?_of_roomy (h : prepare settings paths d = .ok p)
    (hroom : Folder.Roomy settings.breakdownFolder)
    (hwritable : p.folder.Writable settings.breakdownFolder) (ht : p.plan.tasks[i]? = some t)
    (hclear : p.folder.isDirectoryPath (t.file settings) = false) {home : Location}
    (hhome : Housed settings p.plan.tasks p.folder home) :
    t.refusal? settings none home p.folder =
      if Folder.nameLimit < Text.byteCount t.breakdown then some .nameTooLong else none := by
  have hname := hhome.isFileName t (List.mem_of_getElem? ht)
  obtain ⟨henter, hwrite⟩ := hwritable home hhome.isHome
  have hfault := Folder.nameFault?_of_roomy (l := home)
    (Folder.checkPath_of_makeDirectories (prepare_ok h).1) hroom hname (noZero_breakdown h ht) henter
  have hrefusal : t.refusal? settings none home p.folder =
      p.folder.writeFault? settings.breakdownFolder home t.breakdown := rfl
  rw [hrefusal, Folder.writeFault?]
  by_cases hlong : Folder.nameLimit < Text.byteCount t.breakdown
  · rw [if_pos hlong] at hfault ⊢
    rw [hfault]
  · rw [if_neg hlong] at hfault ⊢
    have hplace : p.folder.isDirectory (home ++ [t.breakdown]) = false := by
      have hlocate := hhome.isHome.locate_eq hname
      rw [hfault] at hlocate
      simp only [Folder.isDirectoryPath, Task.file, hlocate] at hclear
      exact hclear
    simp only [hfault, hplace, hwrite]
    rfl

theorem result_of_answered (h : prepare settings paths d = .ok p)
    (hroom : Folder.Roomy settings.breakdownFolder)
    (hwritable : p.folder.Writable settings.breakdownFolder) (ht : p.plan.tasks[i]? = some t)
    (hlast : w.last settings t = .answered answer) (hfault : w.fault t = none)
    (hclear : p.folder.isDirectoryPath (t.file settings) = false) :
    w.result settings p.folder t =
      if Text.byteCount t.breakdown ≤ Folder.nameLimit then
        .graded (t.submission.record settings answer)
      else
        .failed (t.failed
          (GradingError.breakdownNotWritten (t.file settings) .nameTooLong).message) := by
  obtain ⟨home, hhome⟩ := prepare_housed h
  have hrefusal := refusal?_of_roomy h hroom hwritable ht hclear hhome
  have hkept : w.result settings p.folder t = (keep settings t none answer p.folder).2 := by
    simp only [World.result, finish, hlast, hfault]
  rw [hkept, keep_eq hhome (List.mem_of_getElem? ht), hrefusal]
  by_cases hfits : Text.byteCount t.breakdown ≤ Folder.nameLimit
  · rw [if_pos hfits, if_neg (Nat.not_lt_of_le hfits)]
  · rw [if_neg hfits, if_pos (Nat.lt_of_not_le hfits)]

/-- In a writable breakdown folder that takes all names of the length that is allowed, an answer that
came makes a record exactly if the name claimed for it is not longer than that, whatever is written
in the submission and whatever the other tasks do. If the name is longer, the submission fails for
it. No name is longer than the author's name, or else the stem, with the stem and a number behind
it. -/
theorem answer_recorded_iff_name_fits (h : prepare settings paths d = .ok p)
    (hroom : Folder.Roomy settings.breakdownFolder)
    (hwritable : p.folder.Writable settings.breakdownFolder) (ht : p.plan.tasks[i]? = some t)
    (hlast : w.last settings t = .answered answer) (hfault : w.fault t = none)
    (hclear : p.folder.isDirectoryPath (t.file settings) = false) :
    Text.byteCount t.breakdown ≤
      Breakdown.longest t.submission.identity t.path p.plan.tasks.length ∧
    ∀ s, p.Reaches settings w s →
      (∃ s' results, Reach settings p.plan.tasks (w.Allows p.plan.tasks) s s' ∧
        s'.results? p.plan.tasks = some results) ∧
      ∀ results, s.results? p.plan.tasks = some results →
        s.outcome? p = some (.ofResults p.plan.unread results) ∧
        results[i]? = some
          (if Text.byteCount t.breakdown ≤ Folder.nameLimit then
            .graded (t.submission.record settings answer)
          else
            .failed (t.failed
              (GradingError.breakdownNotWritten (t.file settings) .nameTooLong).message)) := by
  refine ⟨byteCount_breakdown_le h ht, ?_⟩
  intro s hreach
  refine ⟨hreach.exists_results, ?_⟩
  intro results hresults
  refine ⟨congrArg (Option.map _) hresults, ?_⟩
  obtain ⟨home, hhome⟩ := prepare_housed h
  rw [(Reach.course hhome hreach).results hresults, List.getElem?_map, ht, Option.map_some,
    result_of_answered h hroom hwritable ht hlast hfault hclear]

namespace Sample

/-- An author with a name of so many letters. -/
def nameplate (letters : Nat) : Folder :=
  .ofList [(.ofString "/handed/N.java",
    .file (Text.utf8 ("// ".toList ++ List.replicate letters 'n')))]

def plated : List Path := [.ofString "/handed/N.java"]

def kind : World where
  attempt _ _ := .answered "SCORE: 9 COMMENTS: fine CONFIDENCE: 90%".toList

/-- The lengths of the names that are claimed, whether a directory stands in their place, and what
cannot be read. -/
def claimed (letters : Nat) : Option (List (Nat × Bool) × List Ungraded) :=
  (prepare apart plated (nameplate letters)).toOption.map fun p =>
    (p.plan.tasks.map fun t => (Text.byteCount t.breakdown, p.folder.isDirectoryPath (t.file apart)),
      p.plan.unread)

theorem exists_only_task {letters bytes : Nat} (h : claimed letters = some ([(bytes, false)], [])) :
    ∃ p t, prepare apart plated (nameplate letters) = .ok p ∧ p.plan.tasks = [t] ∧
      Text.byteCount t.breakdown = bytes ∧ p.folder.isDirectoryPath (t.file apart) = false ∧
      p.plan.unread = [] := by
  unfold claimed at h
  cases hp : prepare apart plated (nameplate letters) with
  | error e =>
    rw [hp] at h
    cases h
  | ok p =>
    rw [hp] at h
    obtain ⟨htasks, hunread⟩ := Prod.mk.inj (Option.some.inj h)
    obtain ⟨t, ht, hfacts⟩ := List.map_eq_singleton_iff.mp htasks
    obtain ⟨hbytes, hclear⟩ := Prod.mk.inj hfacts
    exact ⟨p, t, rfl, ht, hbytes, hclear, hunread⟩

theorem roomy_apart : Folder.Roomy apart.breakdownFolder := by
  unfold Folder.Roomy
  decide

theorem writable {letters : Nat} {p : Prepared}
    (h : prepare apart plated (nameplate letters) = .ok p) :
    p.folder.Writable apart.breakdownFolder := by
  have hrefusal := (Folder.makeDirectories_spec (prepare_ok h).1).2.refusal?
  intro l _
  rw [hrefusal]
  exact ⟨rfl, fun _ => rfl⟩

end Sample

theorem answer_recorded_at_limit :
    ∃ p t s results, prepare Sample.apart Sample.plated (Sample.nameplate 234) = .ok p ∧
      p.plan.tasks[0]? = some t ∧ Text.byteCount t.breakdown = Folder.nameLimit ∧
      Folder.Roomy Sample.apart.breakdownFolder ∧
      p.folder.Writable Sample.apart.breakdownFolder ∧
      p.folder.isDirectoryPath (t.file Sample.apart) = false ∧
      p.Reaches Sample.apart Sample.kind s ∧ s.results? p.plan.tasks = some results ∧
      ∃ r, results[0]? = some (.graded r) := by
  have hclaimed : Sample.claimed 234 = some ([(Folder.nameLimit, false)], []) := by decide +kernel
  obtain ⟨p, t, hp, htasks, hlength, hclear, -⟩ := Sample.exists_only_task hclaimed
  have ht : p.plan.tasks[0]? = some t := by
    rw [htasks]
    rfl
  have hwritable := Sample.writable hp
  obtain ⟨-, hruns⟩ :=
    answer_recorded_iff_name_fits (w := Sample.kind) hp Sample.roomy_apart hwritable ht rfl rfl
      hclear
  obtain ⟨⟨s, results, hreach, hresults⟩, -⟩ := hruns _ .start
  have hgraded := ((hruns s hreach).2 results hresults).2
  rw [if_pos hlength.le] at hgraded
  exact ⟨p, t, s, results, hp, ht, hlength, Sample.roomy_apart, hwritable, hclear, hreach, hresults,
    _, hgraded⟩

/-- One letter more, and the answer that came is lost. -/
theorem answer_lost_under_long_name :
    ∃ p t s o, prepare Sample.apart Sample.plated (Sample.nameplate 235) = .ok p ∧
      p.plan.tasks = [t] ∧ Folder.Roomy Sample.apart.breakdownFolder ∧
      p.folder.Writable Sample.apart.breakdownFolder ∧
      p.folder.isDirectoryPath (t.file Sample.apart) = false ∧
      (∃ answer, Sample.kind.last Sample.apart t = .answered answer) ∧
      p.Reaches Sample.apart Sample.kind s ∧ s.outcome? p = some o ∧ o.records = [] ∧
      o.failures = [t.failed
        (GradingError.breakdownNotWritten (t.file Sample.apart) .nameTooLong).message] := by
  have hclaimed : Sample.claimed 235 = some ([(Folder.nameLimit + 1, false)], []) := by
    decide +kernel
  obtain ⟨p, t, hp, htasks, hlength, hclear, hunread⟩ := Sample.exists_only_task hclaimed
  have ht : p.plan.tasks[0]? = some t := by
    rw [htasks]
    rfl
  have hwritable := Sample.writable hp
  have hresult :=
    result_of_answered (w := Sample.kind) hp Sample.roomy_apart hwritable ht rfl rfl hclear
  rw [hlength, if_neg (Nat.not_succ_le_self _)] at hresult
  obtain ⟨s, o, hreach, ho⟩ := p.exists_outcome Sample.kind Sample.apart
  have houtcome := outcome_eq hp hreach ho
  rw [World.results, htasks, List.map_cons, hresult, hunread] at houtcome
  refine ⟨p, t, s, o, hp, htasks, Sample.roomy_apart, hwritable, hclear, ⟨_, rfl⟩, hreach, ho, ?_,
    ?_⟩
  · rw [houtcome]
    exact List.mergeSort_nil
  · rw [houtcome]
    rfl

end Batch

end LabGrader
