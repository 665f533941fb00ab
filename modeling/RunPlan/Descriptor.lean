import RunPlan.Error
import RunPlan.Text.ItemList
import RunPlan.Text.Digits
import RunPlan.OrderedMap

/-!
The variables that describe one benchmark, and what the reserved ones among them say about the run.
-/

set_option autoImplicit false

namespace RunPlan

open RunPlan.Text

namespace Key

def groups : String := "variables"

def dataSource : String := "data-source"

def queryNames : String := "query-names"

def runs : String := "runs"

def prewarmRuns : String := "prewarm-runs"

def prewarmRepeats : String := "prewarm-repeats"

def concurrency : String := "concurrency"

/-- The key of the days that have to pass between two executions. -/
def frequency : String := "frequency"

def beforeBenchmark : String := "before-benchmark"

def afterBenchmark : String := "after-benchmark"

def beforeExecution : String := "before-execution"

def afterExecution : String := "after-execution"

def base : String := "base"

def environment : String := "environment"

def reserved : List String :=
  [dataSource, queryNames, runs, prewarmRuns, prewarmRepeats, concurrency, frequency,
    beforeBenchmark, afterBenchmark, beforeExecution, afterExecution, groups, base, environment]

def isReserved (key : String) : Bool := reserved.contains key

end Key

def maxCount : Nat := 4294967295

/-- Reads the digits of a count, of which those before have the value `n`. -/
def readCountDigits (n : Nat) : List Char → Except CountFault Nat
  | [] => .ok n
  | c :: r =>
    match digitValue? 10 c with
    | none => .error .invalidDigit
    | some d => if maxCount < 10 * n + d then .error .tooLarge else readCountDigits (10 * n + d) r

/-- Reads a count, with an optional `+` and white space around it. -/
def readCount (text : String) : Except CountFault Nat :=
  match trim text.toList with
  | [] => .error .empty
  | ['+'] => .error .invalidDigit
  | '+' :: ds => readCountDigits 0 ds
  | ds => readCountDigits 0 ds

/-- The evaluated variables of one benchmark, the mandatory ones among them. -/
structure Descriptor where
  vars : Variables
  hasDataSource : vars.contains Key.dataSource = true
  hasQueryNames : vars.contains Key.queryNames = true

namespace Descriptor

def ofVariables (vars : Variables) : Except LoadError Descriptor :=
  if hd : vars.contains Key.dataSource = true then
    if hq : vars.contains Key.queryNames = true then .ok ⟨vars, hd, hq⟩
    else .error (.missingMandatoryKey Key.queryNames)
  else .error (.missingMandatoryKey Key.dataSource)

def value (d : Descriptor) (key : String) : String := (d.vars.get? key).getD ""

def list (d : Descriptor) (key : String) : List String :=
  ((d.vars.get? key).map splitList).getD []

def count (d : Descriptor) (key : String) : Except LoadError (Option Nat) :=
  match d.vars.get? key with
  | none => .ok none
  | some text =>
    match readCount text with
    | .ok n => .ok (some n)
    | .error fault => .error (.invalidValue key text (.count fault))

def dataSource (d : Descriptor) : String := d.value Key.dataSource

def queryNames (d : Descriptor) : List String := d.list Key.queryNames

def runs (d : Descriptor) : Except LoadError (Option Nat) := d.count Key.runs

/-- How often to run before it counts. The older spelling of the key stands in for the newer. -/
def prewarmRuns (d : Descriptor) : Except LoadError (Option Nat) := do
  match ← d.count Key.prewarmRuns with
  | some n => return some n
  | none => d.count Key.prewarmRepeats

def concurrency (d : Descriptor) : Except LoadError (Option Nat) := d.count Key.concurrency

def frequency (d : Descriptor) : Except LoadError (Option Nat) := d.count Key.frequency

def beforeBenchmark (d : Descriptor) : List String := d.list Key.beforeBenchmark

def afterBenchmark (d : Descriptor) : List String := d.list Key.afterBenchmark

def beforeExecution (d : Descriptor) : List String := d.list Key.beforeExecution

def afterExecution (d : Descriptor) : List String := d.list Key.afterExecution

end Descriptor

end RunPlan
