import RunPlan.Benchmark.Summary
import RunPlan.Config
import RunPlan.Definition.Expansion
import RunPlan.Definition.Inheritance
import RunPlan.QuerySource
import RunPlan.Service.Freshness
import RunPlan.Service.UniqueNames
import RunPlan.VariableFilter

/-!
Loading the benchmarks that should run: finding their files, expanding them, choosing among the
benchmarks, naming them and leaving out those that ran recently.
-/

set_option autoImplicit false

namespace RunPlan

/-- What a load works with. -/
structure Loader where
  config : Config
  service : Service
  queries : QuerySource
  patterns : PatternReader

/-- The benchmarks directory and the files found in it. -/
structure Discovery where
  directory : Resource
  files : List Resource
  deriving DecidableEq, Repr

def SummaryTable.note (t : SummaryTable) (title : String) (bs : List Benchmark) : Load Unit := do
  Load.note title
  (t.render bs).forM Load.note

namespace Loader

def filePattern : String := "**/*.yaml"

def reader (l : Loader) : Reader := ⟨l.config.classpathRoots⟩

def find (l : Loader) (tree : FileTree) : Load Discovery := do
  Load.note ("Searching for benchmarks in " ++ l.config.benchmarksDir ++ " ...")
  let directory ← l.reader.resolve tree l.config.benchmarksDir
  let files ← Reader.glob tree directory filePattern
  files.forM fun file => Load.note ("Benchmark found: " ++ file.location)
  return ⟨directory, files⟩

/-- The benchmarks of one file, in the order of their descriptors. -/
def benchmarksIn (l : Loader) (tree : FileTree) (name sequenceId : String) (file : Resource) :
    Except LoadError (List Benchmark) := do
  let definition ← Definition.load tree file
  let descriptors ← Definition.descriptors definition
  descriptors.mapM fun d => do
    let queries ← l.queries tree d.queryNames
    Benchmark.ofDescriptor name sequenceId l.config.environmentName d queries

/-- Loads one file. What fails is told with its location. -/
def loadFile (l : Loader) (tree : FileTree) (name sequenceId : String) (file : Resource) :
    Except LoadError (List Benchmark) :=
  (l.benchmarksIn tree name sequenceId file).mapError (.inFile file.location)

def loadFiles (l : Loader) (tree : FileTree) (sequenceId : String) (directory : Resource) :
    List Resource → Load (List Benchmark)
  | [] => return []
  | file :: files => do
    let name := benchmarkName directory.path file.path
    if !l.config.isActive name then l.loadFiles tree sequenceId directory files
    else
      Load.checkCancelled
      Load.note ("Benchmark file to be read: " ++ file.location)
      let first ← l.loadFile tree name sequenceId file
      let rest ← l.loadFiles tree sequenceId directory files
      return first ++ rest

/-- The benchmarks of the wanted files, in the natural order of their names. -/
def expand (l : Loader) (tree : FileTree) (sequenceId : String) (d : Discovery) :
    Load (List Benchmark) := do
  let bs ← l.loadFiles tree sequenceId d.directory d.files
  Load.checkCancelled
  return NaturalOrder.sortBy Benchmark.name bs

/-- All benchmarks of the wanted files, before any choice by variables. -/
def loadAll (l : Loader) (tree : FileTree) (sequenceId : String) : Load (List Benchmark) := do
  l.expand tree sequenceId (← l.find tree)

/-- Parts benchmarks by whether they ran recently, if that is asked for. -/
def dropFresh (l : Loader) (table : SummaryTable) (bs : List Benchmark) : Await Freshness := do
  if !l.config.frequencyCheck then return ⟨bs, []⟩
  let freshness ← Await.cancellable (l.service.filterFresh bs)
  table.note "Recently tested benchmarks:" freshness.fresh
  return freshness

/-- Names the benchmarks that were included, and leaves out those that ran recently. -/
def finish (l : Loader) (table : SummaryTable) (included : List Benchmark) : Await Freshness := do
  Load.checkCancelled
  let named ← Await.cancellable (l.service.assignUniqueNames included)
  let freshness ← l.dropFresh table named
  table.note "Selected Benchmarks:" freshness.kept
  return freshness

def checkCount (total excluded : Nat) (f : Freshness) : Load Unit :=
  if total ≠ f.kept.length + excluded + f.fresh.length then
    throw (.miscounted total f.kept.length excluded f.fresh.length)
  else return ()

def load (l : Loader) (tree : FileTree) (sequenceId : String) : Await (List Benchmark) := do
  let chosen ← VariableFilter.parse l.patterns l.config.activeVariables?
  Load.checkCancelled
  let all ← l.loadAll tree sequenceId
  let (included, excluded) := all.partition chosen.accepts
  let table := SummaryTable.ofBenchmarks (included ++ excluded)
  table.note "Excluded Benchmarks:" excluded
  let freshness ← l.finish table included
  checkCount all.length excluded.length freshness
  return freshness.kept

end Loader

end RunPlan
