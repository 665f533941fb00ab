import RunPlan.Proofs.AgeByName
import RunPlan.Proofs.BenchmarkVariables
import RunPlan.Proofs.EndingWell

/-!
What a load returns is well formed. Main statement: with any service, every benchmark of a load that
ends well has positive counts, a unique name, and exactly the settings that its own variables give,
and the benchmarks stand in the natural order of their names.
-/

set_option autoImplicit false

namespace RunPlan

open RunPlan.Load RunPlan.NaturalOrder

/-- A benchmark that can be run as it stands. -/
structure Benchmark.WellFormed (b : Benchmark) : Prop where
  runs : 1 ≤ b.runs
  concurrency : 1 ≤ b.concurrency
  uniqueName : b.uniqueName?.isSome = true
  reflects : b.Reflects

namespace Loader

variable {l : Loader} {tree : FileTree} {sequenceId : String} {bs kept : List Benchmark}
  {names : List String}

private theorem wellFormed_of_mem_named (hbs : ∀ b ∈ bs, b.Reflects) :
    ∀ b ∈ named bs names, b.WellFormed := by
  intro b hb
  obtain ⟨b', hb', name, rfl⟩ := exists_of_mem_named hb
  exact ⟨b'.runs_pos, b'.concurrency_pos, rfl, (hbs b' hb').withUniqueName name⟩

private theorem pairwise_included (h : l.included tree sequenceId = .ok bs) :
    (bs.map Benchmark.name).Pairwise fun a b => le a b = true := by
  obtain ⟨chosen, all, -, hall, rfl⟩ := exists_of_included_eq_ok h
  obtain ⟨d, -, hall⟩ := bind_eq_ok_iff.mp hall
  obtain ⟨bss, -, rfl⟩ := map_eq_ok_iff.mp hall
  rw [List.pairwise_map]
  exact (pairwise_sortBy Benchmark.name bss.flatten).filter _

/-- Every benchmark that a load returns is well formed, and they are in the natural order of their
names. -/
theorem load_wellFormed (l : Loader) (tree : FileTree) (sequenceId : String) (t : Trace)
    (kept : List Benchmark) (h : ((l.load tree sequenceId).runFrom t).1 = .ok kept) :
    (∀ b ∈ kept, b.WellFormed) ∧
      kept.Pairwise fun a b => compareNames a.name b.name ≠ .gt := by
  obtain ⟨bs, made, hbs, hended⟩ := load_eq_ok (Prod.ext h rfl)
  obtain ⟨names, hlength, hkept⟩ := hended.course.kept_sublist
  constructor
  · intro b hb
    exact wellFormed_of_mem_named (reflects_of_included hbs) b (hkept.subset hb)
  · have hsorted : (kept.map Benchmark.name).Pairwise fun a b => le a b = true := by
      refine List.Pairwise.sublist (hkept.map Benchmark.name) ?_
      rw [map_named (fun _ _ => rfl) hlength]
      exact pairwise_included hbs
    refine (List.pairwise_map.mp hsorted).imp fun {a b} hle => ?_
    simpa [le] using hle

theorem load_sample_wellFormed :
    ∃ kept, ((Sample.loader .offline).load Sample.tree "seq").outcome = .ok kept ∧
      (∀ b ∈ kept, b.WellFormed) ∧
      kept.Pairwise fun a b => compareNames a.name b.name ≠ .gt := by
  obtain ⟨bs, hbs⟩ := exists_sample_included .offline
  obtain ⟨kept, t', hload⟩ :=
    exists_load_eq_ok (t := ⟨false, [], []⟩) (Service.offlineWithAge_answersInFull _) hbs rfl
  have hkept : (((Sample.loader .offline).load Sample.tree "seq").runFrom ⟨false, [], []⟩).1 =
      .ok kept := by
    rw [hload]
  exact ⟨kept, hkept, load_wellFormed (Sample.loader .offline) Sample.tree "seq" ⟨false, [], []⟩
    kept hkept⟩

end Loader

end RunPlan
