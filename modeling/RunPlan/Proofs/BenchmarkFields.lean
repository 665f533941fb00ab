import RunPlan.Benchmark.Basic
import RunPlan.Proofs.Outcome

/-!
What a benchmark takes over from its descriptor. Main statement: a benchmark is built exactly from
the settings that its descriptor gives, with the defaults where it gives none.
-/

set_option autoImplicit false

namespace RunPlan.Benchmark

/-- The benchmark says what the descriptor says. -/
structure Follows (b : Benchmark) (name sequenceId environment : String) (d : Descriptor)
    (queries : List Query) : Prop where
  name : b.name = name
  sequenceId : b.sequenceId = sequenceId
  unnamed : b.uniqueName? = none
  dataSource : b.dataSource = d.dataSource
  environment : b.environment = environment
  runs : ∃ runs?, d.runs = .ok runs? ∧ b.runs = runs?.getD 3
  prewarmRuns : ∃ runs?, d.prewarmRuns = .ok runs? ∧ b.prewarmRuns = runs?.getD 0
  concurrency : ∃ runs?, d.concurrency = .ok runs? ∧ b.concurrency = runs?.getD 1
  frequency : ∃ days?, d.frequency = .ok days? ∧
    b.frequency? = days?.map fun days => Span.ofDays days
  beforeBenchmark : b.beforeBenchmark = d.beforeBenchmark
  afterBenchmark : b.afterBenchmark = d.afterBenchmark
  beforeExecution : b.beforeExecution = d.beforeExecution
  afterExecution : b.afterExecution = d.afterExecution
  queries : b.queries = queries
  vars : b.vars = d.vars

theorem follows_of_ofDescriptor {b : Benchmark} {name sequenceId environment : String}
    {d : Descriptor} {queries : List Query}
    (h : ofDescriptor name sequenceId environment d queries = .ok b) :
    b.Follows name sequenceId environment d queries := by
  obtain ⟨runs?, hruns, h⟩ := bind_eq_ok_iff.mp h
  obtain ⟨prewarmRuns?, hprewarmRuns, h⟩ := bind_eq_ok_iff.mp h
  obtain ⟨concurrency?, hconcurrency, h⟩ := bind_eq_ok_iff.mp h
  obtain ⟨days?, hdays, h⟩ := bind_eq_ok_iff.mp h
  simp only [BenchmarkDraft.build] at h
  split at h
  · split at h
    · cases h
      exact ⟨rfl, rfl, rfl, rfl, rfl, ⟨runs?, hruns, rfl⟩, ⟨prewarmRuns?, hprewarmRuns, rfl⟩,
        ⟨concurrency?, hconcurrency, rfl⟩, ⟨days?, hdays, rfl⟩, rfl, rfl, rfl, rfl, rfl, rfl⟩
    · cases h
  · cases h

end RunPlan.Benchmark
