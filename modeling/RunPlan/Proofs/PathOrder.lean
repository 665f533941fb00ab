import RunPlan.Path
import RunPlan.Proofs.NaturalOrder

/-!
The order of paths is total. Main statements: the comparison of paths is transitive and turns around
with its arguments, and files that were sorted by it stand in it.
-/

set_option autoImplicit false

namespace RunPlan

open Std

namespace Component

def name : Component → List Char
  | .normal name => name
  | _ => []

private theorem compare_eq_compareLex :
    Component.compare = compareLex (compareOn rank) (fun a b =>
      NaturalOrder.compareChars a.name b.name) := by
  funext a b
  cases a <;> cases b <;> rfl

private theorem compare_eq_iff {a b : Component} : a.compare b = .eq ↔ a = b := by
  cases a <;> cases b <;> simp [Component.compare, rank]

instance transCmp_compare : TransCmp Component.compare := by
  rw [compare_eq_compareLex]
  infer_instance

instance lawfulEqCmp_compare : LawfulEqCmp Component.compare where
  compare_self := compare_eq_iff.mpr rfl
  eq_of_compare := compare_eq_iff.mp

end Component

namespace Path

instance transCmp_compare : TransCmp Path.compare :=
  NaturalOrder.transCmp_comap (List.compareLex Component.compare) components

private theorem components_eq_of_compare {p q : Path} (h : p.compare q = .eq) :
    p.components = q.components := by
  have hlists : List.compareLex Component.compare p.components q.components = .eq := h
  exact LawfulEqCmp.eq_of_compare hlists

def le (p q : Path) : Bool := p.compare q != .gt

theorem le_iff_isLE {p q : Path} : p.le q = true ↔ (p.compare q).isLE = true := by
  rw [le]
  cases p.compare q <;> decide

theorem le_trans (p q r : Path) (hpq : p.le q = true) (hqr : q.le r = true) : p.le r = true := by
  rw [le_iff_isLE] at hpq hqr ⊢
  exact TransCmp.isLE_trans hpq hqr

theorem le_total (p q : Path) : (p.le q || q.le p) = true := by
  have hswap : p.compare q = (q.compare p).swap := OrientedCmp.eq_swap
  rw [le, le, hswap]
  cases q.compare p <;> rfl

theorem pairwise_mergeSort (paths : List Path) :
    (paths.mergeSort fun p q => p.compare q != .gt).Pairwise fun p q => p.compare q ≠ .gt := by
  have hsorted := List.pairwise_mergeSort le_trans le_total paths
  refine hsorted.imp fun {p q} hpq => ?_
  simpa [le] using hpq

theorem pairwise_lt_mergeSort {paths : List Path}
    (h : paths.Pairwise fun p q => p.components ≠ q.components) :
    (paths.mergeSort fun p q => p.compare q != .gt).Pairwise fun p q => p.compare q = .lt := by
  have hdifferent : (paths.mergeSort fun p q => p.compare q != .gt).Pairwise fun p q =>
      p.components ≠ q.components :=
    (List.mergeSort_perm _ _).symm.pairwise h fun hne => hne.symm
  refine ((pairwise_mergeSort paths).and hdifferent).imp fun {p q} hpq => ?_
  cases hcompare : p.compare q with
  | lt => rfl
  | eq => exact absurd (components_eq_of_compare hcompare) hpq.2
  | gt => exact absurd hcompare hpq.1

end Path

end RunPlan
