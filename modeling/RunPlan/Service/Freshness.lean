import RunPlan.Service.Basic

/-!
Leaving out benchmarks that ran within their frequency. Only those with a frequency are asked for.
-/

set_option autoImplicit false

namespace RunPlan

/-- Benchmarks that have to run, and those that ran recently. -/
structure Freshness where
  kept : List Benchmark
  fresh : List Benchmark
  deriving DecidableEq

namespace Freshness

def push (isFresh : Bool) (b : Benchmark) (f : Freshness) : Freshness :=
  if isFresh then { f with fresh := b :: f.fresh } else { f with kept := b :: f.kept }

/-- Parts benchmarks by the ages of those that have a frequency, in order. One that ran exactly its
frequency ago is fresh. -/
def part : List Benchmark → List Span → Freshness
  | [], _ => ⟨[], []⟩
  | b :: bs, ages =>
    match b.frequency?, ages with
    | some frequency, age :: ages =>
      (part bs ages).push (age.milliseconds ≤ frequency.milliseconds) b
    | some _, [] => (part bs []).push false b
    | none, ages => (part bs ages).push false b

def names (bs : List Benchmark) : Except LoadError (List String) :=
  (bs.filter fun b => b.frequency?.isSome).mapM fun b =>
    match b.uniqueName? with
    | some name => .ok name
    | none => .error (.unnamedBenchmark b.name)

end Freshness

/-- Parts benchmarks by whether they ran recently. Without a frequency among them there is no
call. -/
def Service.filterFresh (service : Service) (bs : List Benchmark) : Await Freshness := do
  let names ← (Freshness.names bs : Except LoadError (List String))
  if names.isEmpty then return ⟨bs, []⟩
  let ages ← Await.callFor agesPath names.length (.ages names) (service.executionAges names)
  return Freshness.part bs ages

end RunPlan
