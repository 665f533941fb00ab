import RunPlan.Benchmark.Basic
import RunPlan.Json.Printer

/-!
Benchmarks as JSON. A unique name that is not set is left out; a frequency is in days.
-/

set_option autoImplicit false

namespace RunPlan

def Json.ofMap (m : OrderedMap String String) : Json :=
  .object (m.entries.map fun (k, v) => (k, .string v))

def Query.toJson (q : Query) : Json :=
  .object [("name", .string q.name), ("sql", .string q.sql), ("attributes", .ofMap q.attributes)]

def Benchmark.toJson (b : Benchmark) : Json :=
  .object ([("name", .string b.name), ("sequence-id", .string b.sequenceId)] ++
    (b.uniqueName?.map fun n => ("unique-name", Json.string n)).toList ++
    [("data-source", .string b.dataSource),
      ("environment", .string b.environment),
      ("runs", .int b.runs),
      ("prewarm-runs", .int b.prewarmRuns),
      ("concurrency", .int b.concurrency),
      ("frequency", (b.frequency?.map fun f => Json.int f.days).getD .null),
      ("before-benchmark-macros", .strings b.beforeBenchmark),
      ("after-benchmark-macros", .strings b.afterBenchmark),
      ("before-execution-macros", .strings b.beforeExecution),
      ("after-execution-macros", .strings b.afterExecution),
      ("queries", .array (b.queries.map Query.toJson)),
      ("variables", .ofMap b.vars)])

def Benchmark.listJson (bs : List Benchmark) : Json := .array (bs.map Benchmark.toJson)

end RunPlan
