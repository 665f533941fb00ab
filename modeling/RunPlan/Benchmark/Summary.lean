import RunPlan.Benchmark.Basic

/-!
Tables of benchmarks with aligned columns. Rows that look the same stand only once.
-/

set_option autoImplicit false

namespace RunPlan

/-- The widths of the first two columns. -/
structure SummaryTable where
  nameWidth : Nat
  dataSourceWidth : Nat
  deriving DecidableEq, Repr

namespace SummaryTable

def margin : Nat := 3

private def defaultWidth : Nat := 10

/-- A text filled up with spaces; one that is too long stays as it is. -/
def pad (width : Nat) (s : String) : String :=
  s ++ String.ofList (List.replicate (width - s.length) ' ')

def widthOf (texts : List String) : Nat :=
  ((texts.map String.length).max?).getD defaultWidth + margin

def ofBenchmarks (bs : List Benchmark) : SummaryTable :=
  ⟨widthOf (bs.map Benchmark.name), widthOf (bs.map Benchmark.dataSource)⟩

def line (t : SummaryTable) (name dataSource runs prewarms concurrency : String) : String :=
  "\t| " ++ pad t.nameWidth name ++ " | " ++ pad t.dataSourceWidth dataSource ++ " | " ++
    pad 4 runs ++ " | " ++ pad 8 prewarms ++ " | " ++ pad 11 concurrency ++ " |"

def row (t : SummaryTable) (b : Benchmark) : String :=
  t.line b.name b.dataSource (toString b.runs) (toString b.prewarmRuns) (toString b.concurrency)

def header (t : SummaryTable) : String :=
  t.line "Benchmark Name" "Data Source" "Runs" "Prewarms" "Concurrency"

def distinct (rows : List String) : List String :=
  rows.foldl (fun kept row => if kept.contains row then kept else kept ++ [row]) []

/-- The titles and one line for each benchmark that looks different from those before. -/
def render (t : SummaryTable) (bs : List Benchmark) : List String :=
  t.header :: distinct (bs.map t.row)

end SummaryTable

end RunPlan
