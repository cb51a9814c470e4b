import LabGrader.Path
import LabGrader.Proofs.Text.Order

/-!
# The order of paths

A component is ordered like the list of its rank and its characters, and a path like the list of its
components. So paths are ordered as lists are, and two of them are equal in the order exactly if
their components are the same.
-/

namespace LabGrader

namespace Path

variable {p q : Path}

/-- What a component is ordered by. -/
def Component.key : Component → List Nat
  | .name t => 3 :: t.map Char.toNat
  | c => [c.rank]

theorem Component.key_injective {a b : Component} (h : a.key = b.key) : a = b := by
  cases a <;> cases b
  case name.name s t =>
    have htext : s.map Char.toNat = t.map Char.toNat := (List.cons.inj h).2
    rw [(List.map_inj_right fun _ _ => Char.toNat_inj.mp).mp htext]
  all_goals first | rfl | simp [key, rank] at h

theorem Component.order_eq_compare (a b : Component) : a.order b = compare a.key b.key := by
  cases a <;> cases b
  case name.name s t =>
    rw [order, Text.order_eq_compare, key, key, List.compare_cons_cons]
    rfl
  all_goals rfl

def key (p : Path) : List (List Nat) := p.components.map Component.key

theorem orderComponents_eq_compare (s t : List Component) :
    orderComponents s t = compare (s.map Component.key) (t.map Component.key) := by
  induction s generalizing t with
  | nil => cases t <;> rfl
  | cons a s ih =>
    cases t with
    | nil => rfl
    | cons b t =>
      rw [orderComponents, List.map_cons, List.map_cons, List.compare_cons_cons, ih,
        Component.order_eq_compare]

theorem order_eq_compare (p q : Path) : p.order q = compare p.key q.key :=
  orderComponents_eq_compare p.components q.components

theorem order_eq_iff : p.order q = .eq ↔ p.components = q.components := by
  rw [order_eq_compare, Std.compare_eq_iff_eq]
  exact List.map_inj_right fun _ _ => Component.key_injective

theorem isLE_order_trans (p q r : Path) (hpq : (p.order q).isLE = true)
    (hqr : (q.order r).isLE = true) : (p.order r).isLE = true := by
  rw [order_eq_compare] at hpq hqr ⊢
  exact Std.TransOrd.isLE_trans hpq hqr

theorem isLE_order_total (p q : Path) : ((p.order q).isLE || (q.order p).isLE) = true := by
  rw [order_eq_compare, order_eq_compare, Std.OrientedOrd.eq_swap (a := q.key)]
  cases compare p.key q.key <;> rfl

theorem order_eq_lt (h : (p.order q).isLE = true) (hne : p.components ≠ q.components) :
    p.order q = .lt := by
  cases horder : p.order q with
  | lt => rfl
  | eq => exact absurd (order_eq_iff.mp horder) hne
  | gt =>
    rw [horder] at h
    cases h

/-- Sorted paths come in a strict order if no two of them have the same components. -/
theorem pairwise_mergeSort {paths : List Path} (h : (paths.map components).Nodup) :
    (paths.mergeSort fun p q => (p.order q).isLE).Pairwise fun p q => p.order q = .lt := by
  have hperm := List.mergeSort_perm paths fun p q => (p.order q).isLE
  have hsorted : (paths.mergeSort fun p q => (p.order q).isLE).Pairwise
      fun p q => (p.order q).isLE = true :=
    List.pairwise_mergeSort isLE_order_trans isLE_order_total paths
  have hdistinct := List.pairwise_map.mp ((hperm.map components).nodup_iff.mpr h)
  exact hsorted.imp₂ (fun _ _ => order_eq_lt) hdistinct

end Path

end LabGrader
