import RunPlan.Loader
import RunPlan.Proofs.Freshness
import RunPlan.Proofs.LoadRun

/-!
The count at the end of a load. Main statement: whatever the service does, and however the load is
cancelled, none of its benchmarks goes missing, so that the count never ends it.
-/

set_option autoImplicit false

namespace RunPlan

open RunPlan.Await

variable {bs : List Benchmark} {f : Freshness} {t t' : Trace}

private theorem Freshness.length_part (bs : List Benchmark) (ages : List Span) :
    (part bs ages).kept.length + (part bs ages).fresh.length = bs.length := by
  rw [part_eq, ← List.length_append, (perm_itemsAt_not_append _ _).length_eq]

namespace Await

variable {α : Type} {path : String} {n : Nat} {c : ServiceCall} {r : Response (List α)}
  {as : List α}

private theorem length_of_callFor_eq_ok (h : (callFor path n c r).runFrom t = (.ok as, t')) :
    as.length = n := by
  rw [runFrom_callFor, Prod.mk.injEq] at h
  exact Response.length_of_outcomeFor_eq_ok h.1

private theorem runFrom_lift_bind_eq_ok {x : Load Unit} {f : Unit → Await α} {a : α}
    (h : ((liftM x : Await Unit) >>= f).runFrom t = (.ok a, t')) :
    ∃ s, (f ()).runFrom s = (.ok a, t') := by
  obtain ⟨_, s, -, h⟩ := runFrom_bind_eq_ok_iff.mp h
  exact ⟨s, h⟩

end Await

namespace Service

variable {service : Service}

private theorem length_of_assignUniqueNames_eq_ok {named : List Benchmark}
    (h : (service.assignUniqueNames bs).runFrom t = (.ok named, t')) :
    named.length = bs.length := by
  rw [assignUniqueNames] at h
  split at h
  · rw [(runFrom_pure_eq_ok_iff.mp h).1]
  · obtain ⟨names, s, hnames, h⟩ := runFrom_bind_eq_ok_iff.mp h
    obtain ⟨rfl, -⟩ := runFrom_pure_eq_ok_iff.mp h
    rw [List.length_zipWith, length_of_callFor_eq_ok hnames, Nat.min_self]

private theorem length_of_filterFresh_eq_ok (h : (service.filterFresh bs).runFrom t = (.ok f, t')) :
    f.kept.length + f.fresh.length = bs.length := by
  obtain ⟨names, s, -, h⟩ := runFrom_bind_eq_ok_iff.mp h
  split at h
  · obtain ⟨rfl, -⟩ := runFrom_pure_eq_ok_iff.mp h
    rfl
  · obtain ⟨ages, s', -, h⟩ := runFrom_bind_eq_ok_iff.mp h
    obtain ⟨rfl, -⟩ := runFrom_pure_eq_ok_iff.mp h
    exact Freshness.length_part bs ages

end Service

namespace Loader

variable {l : Loader} {table : SummaryTable}

private theorem length_of_dropFresh_eq_ok (h : (l.dropFresh table bs).runFrom t = (.ok f, t')) :
    f.kept.length + f.fresh.length = bs.length := by
  rw [dropFresh] at h
  split at h
  · obtain ⟨rfl, -⟩ := runFrom_pure_eq_ok_iff.mp h
    rfl
  · obtain ⟨freshness, s, hfilter, h⟩ := runFrom_bind_eq_ok_iff.mp h
    obtain ⟨s', h⟩ := runFrom_lift_bind_eq_ok h
    obtain ⟨rfl, -⟩ := runFrom_pure_eq_ok_iff.mp h
    exact Service.length_of_filterFresh_eq_ok (runFrom_cancellable_eq_ok_iff.mp hfilter).2

private theorem length_of_finish_eq_ok (h : (l.finish table bs).runFrom t = (.ok f, t')) :
    f.kept.length + f.fresh.length = bs.length := by
  obtain ⟨-, h⟩ := runFrom_check_bind_eq_ok_iff.mp h
  obtain ⟨named, s, hassign, h⟩ := runFrom_bind_eq_ok_iff.mp h
  obtain ⟨freshness, s', hdrop, h⟩ := runFrom_bind_eq_ok_iff.mp h
  obtain ⟨s'', h⟩ := runFrom_lift_bind_eq_ok h
  obtain ⟨rfl, -⟩ := runFrom_pure_eq_ok_iff.mp h
  rw [length_of_dropFresh_eq_ok hdrop, Service.length_of_assignUniqueNames_eq_ok
    (runFrom_cancellable_eq_ok_iff.mp hassign).2]

private theorem checkCount_eq_pure {total excluded : Nat}
    (h : total = f.kept.length + excluded + f.fresh.length) :
    checkCount total excluded f = pure () := by
  rw [checkCount, if_neg (not_not.mpr h)]

/-- The count behind the last phase of a load changes nothing. -/
theorem runFrom_finish_counted (l : Loader) (table : SummaryTable) (bs : List Benchmark)
    (excluded : Nat) (t : Trace) :
    (do
      let f ← l.finish table bs
      checkCount (bs.length + excluded) excluded f
      return f.kept : Await (List Benchmark)).runFrom t =
      (((l.finish table bs).runFrom t).1.map Freshness.kept,
        ((l.finish table bs).runFrom t).2) := by
  rcases hrun : (l.finish table bs).runFrom t with ⟨r, t'⟩
  cases r with
  | error e => exact runFrom_bind_error hrun
  | pending => exact runFrom_bind_pending hrun
  | ok f =>
    have hcount : bs.length + excluded = f.kept.length + excluded + f.fresh.length := by
      rw [← length_of_finish_eq_ok hrun]
      omega
    rw [runFrom_bind_ok hrun, checkCount_eq_pure hcount]
    rfl

end Loader

end RunPlan
