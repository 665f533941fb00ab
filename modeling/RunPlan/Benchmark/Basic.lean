import RunPlan.Descriptor
import RunPlan.Span.Basic

/-!
Benchmarks: one concrete combination of variables with its queries and the settings of its runs.
-/

set_option autoImplicit false

namespace RunPlan

/-- A query: the text of a file, and what its header says about it. -/
structure Query where
  name : String
  sql : String
  attributes : OrderedMap String String
  deriving DecidableEq

/-- What a benchmark is made from. -/
structure BenchmarkDraft where
  name : String
  sequenceId : String
  queries : List Query
  dataSource : String := ""
  environment : String := ""
  runs : Nat := 3
  prewarmRuns : Nat := 0
  concurrency : Nat := 1
  frequency? : Option Span := none
  beforeBenchmark : List String := []
  afterBenchmark : List String := []
  beforeExecution : List String := []
  afterExecution : List String := []
  vars : Variables := ∅

/-- A benchmark that can be run. -/
structure Benchmark where
  name : String
  sequenceId : String
  uniqueName? : Option String
  dataSource : String
  environment : String
  runs : Nat
  prewarmRuns : Nat
  concurrency : Nat
  frequency? : Option Span
  beforeBenchmark : List String
  afterBenchmark : List String
  beforeExecution : List String
  afterExecution : List String
  queries : List Query
  vars : Variables
  runs_pos : 1 ≤ runs
  concurrency_pos : 1 ≤ concurrency
  deriving DecidableEq

def BenchmarkDraft.build (d : BenchmarkDraft) : Except LoadError Benchmark :=
  if hr : 1 ≤ d.runs then
    if hc : 1 ≤ d.concurrency then
      .ok ⟨d.name, d.sequenceId, none, d.dataSource, d.environment, d.runs, d.prewarmRuns,
        d.concurrency, d.frequency?, d.beforeBenchmark, d.afterBenchmark, d.beforeExecution,
        d.afterExecution, d.queries, d.vars, hr, hc⟩
    else .error (.invalidValue Key.concurrency (toString d.concurrency) .belowOne)
  else .error (.invalidValue Key.runs (toString d.runs) .belowOne)

namespace Benchmark

def withUniqueName (b : Benchmark) (uniqueName : String) : Benchmark :=
  { b with uniqueName? := some uniqueName }

def freeVariables (b : Benchmark) : Variables := b.vars.filter fun key _ => !Key.isReserved key

/-- The benchmark of a descriptor. What it does not set has its default, and a frequency is in
days. -/
def ofDescriptor (name sequenceId environment : String) (d : Descriptor) (queries : List Query) :
    Except LoadError Benchmark := do
  let runs ← d.runs
  let prewarmRuns ← d.prewarmRuns
  let concurrency ← d.concurrency
  let frequency? ← d.frequency
  let draft : BenchmarkDraft := { name, sequenceId, queries }
  { draft with
    dataSource := d.dataSource
    environment
    runs := runs.getD draft.runs
    prewarmRuns := prewarmRuns.getD draft.prewarmRuns
    concurrency := concurrency.getD draft.concurrency
    frequency? := frequency?.map fun days => Span.ofDays days
    beforeBenchmark := d.beforeBenchmark
    afterBenchmark := d.afterBenchmark
    beforeExecution := d.beforeExecution
    afterExecution := d.afterExecution
    vars := d.vars }.build

end Benchmark

end RunPlan
