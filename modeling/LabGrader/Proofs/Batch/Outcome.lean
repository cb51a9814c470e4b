import LabGrader.Batch.Task
import LabGrader.Proofs.Text.Order

/-!
# Outcomes

An outcome rearranges results and loses none of them: its records are sorted by author and stable
for equal authors, its failures stay in their order.
-/

namespace LabGrader

namespace Batch

def Result.path : Result → Option Path
  | .graded r => r.path
  | .failed u => some u.path

namespace Outcome

variable {unread : List Ungraded} {results : List Result}

abbrev recordLE (r s : Record) : Bool := (Text.order r.identity s.identity).isLE

theorem recordLE_trans (r s t : Record) (h : recordLE r s) (h' : recordLE s t) : recordLE r t :=
  Text.order_trans h h'

theorem recordLE_total (r s : Record) : recordLE r s || recordLE s r :=
  Text.order_total r.identity s.identity

theorem records_perm (unread : List Ungraded) (results : List Result) :
    (ofResults unread results).records.Perm (results.filterMap Result.record?) :=
  List.mergeSort_perm _ _

theorem mem_records {r : Record} :
    r ∈ (ofResults unread results).records ↔ .graded r ∈ results := by
  rw [(records_perm unread results).mem_iff, List.mem_filterMap]
  constructor
  · rintro ⟨result, hmem, hrecord⟩
    cases result with
    | graded r' =>
      cases hrecord
      exact hmem
    | failed u => cases hrecord
  · intro h
    exact ⟨.graded r, h, rfl⟩

theorem mem_failures_of_failed {u : Ungraded} (h : .failed u ∈ results) :
    u ∈ (ofResults unread results).failures :=
  List.mem_append_right _ (List.mem_filterMap.mpr ⟨.failed u, h, rfl⟩)

theorem mem_failures {u : Ungraded} :
    u ∈ (ofResults unread results).failures ↔ u ∈ unread ∨ .failed u ∈ results := by
  constructor
  · intro h
    rcases List.mem_append.mp h with hunread | hfailed
    · exact Or.inl hunread
    · obtain ⟨result, hmem, hfailure⟩ := List.mem_filterMap.mp hfailed
      cases result with
      | graded r => cases hfailure
      | failed u' =>
        cases hfailure
        exact Or.inr hmem
  · rintro (hunread | hfailed)
    · exact List.mem_append_left _ hunread
    · exact mem_failures_of_failed hfailed

theorem records_sorted (unread : List Ungraded) (results : List Result) :
    (ofResults unread results).records.Pairwise fun r s =>
      (Text.order r.identity s.identity).isLE :=
  List.pairwise_mergeSort recordLE_trans recordLE_total _

/-- Records of one author stay in the order of the results. -/
theorem records_stable (unread : List Ungraded) (results : List Result) (identity : Text) :
    (ofResults unread results).records.filter (·.identity = identity) =
      (results.filterMap Result.record?).filter (·.identity = identity) := by
  generalize hrecords : results.filterMap Result.record? = records
  have hperm : (ofResults unread results).records.Perm records :=
    hrecords ▸ records_perm unread results
  have hequal : (records.filter (·.identity = identity)).Pairwise fun r s => recordLE r s := by
    apply List.pairwise_of_forall_mem_list
    intro r hr s hs
    have hr' : r.identity = identity := of_decide_eq_true (List.mem_filter.mp hr).2
    have hs' : s.identity = identity := of_decide_eq_true (List.mem_filter.mp hs).2
    simp only [recordLE, hr', hs', Text.order_refl]
  have hsublist : (records.filter (·.identity = identity)).Sublist
      (ofResults unread results).records := by
    have := List.sublist_mergeSort recordLE_trans recordLE_total hequal List.filter_sublist
    simpa only [ofResults, hrecords] using this
  have hfiltered := hsublist.filter (·.identity = identity)
  rw [List.filter_filter] at hfiltered
  simp only [Bool.and_self] at hfiltered
  exact (hfiltered.eq_of_length (hperm.filter _).length_eq.symm).symm

theorem perm_paths (results : List Result) :
    ((results.filterMap Result.record?).map Record.path ++
      (results.filterMap Result.failure?).map fun u => some u.path).Perm
      (results.map Result.path) := by
  induction results with
  | nil => exact .refl _
  | cons result rest ih =>
    cases result with
    | graded r => exact ih.cons r.path
    | failed u => exact List.perm_middle.trans (ih.cons (some u.path))

theorem entries_perm (unread : List Ungraded) (results : List Result) :
    ((ofResults unread results).records.map Record.path ++
      (ofResults unread results).failures.map fun u => some u.path).Perm
      (results.map Result.path ++ unread.map fun u => some u.path) := by
  have hrecords := (records_perm unread results).map Record.path
  have hfailures : (ofResults unread results).failures.map (fun u => some u.path) =
      (unread.map fun u => some u.path) ++
        (results.filterMap Result.failure?).map fun u => some u.path :=
    List.map_append
  rw [hfailures]
  refine (hrecords.append List.perm_append_comm).trans ?_
  rw [← List.append_assoc]
  exact (perm_paths results).append_right _

end Outcome

end Batch

end LabGrader
