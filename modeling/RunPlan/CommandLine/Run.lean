import RunPlan.Benchmark.Json
import RunPlan.CommandLine.Arguments
import RunPlan.CommandLine.Failure
import RunPlan.FileTree.Change
import RunPlan.Json.Printer
import RunPlan.Loader
import RunPlan.Regex.Parser
import RunPlan.Service.Http

/-!
What the commands do: the lines that they print, the calls that they make and the files that they
write.
-/

set_option autoImplicit false

namespace RunPlan.CommandLine

open RunPlan.Text

/-- What a command meets: the files, how calls of the results service are responded to, and the name
of a sequence that was given none. -/
structure Surroundings where
  tree : FileTree
  respond : ServiceCall → Option HttpResponse
  sequenceId : String

/-- What a command leaves: the printed lines or a failure, unless it goes on waiting, what its load
did, the requests that were sent, and the files. -/
structure Outcome where
  result? : Option (Except Failure (List String))
  trace : Trace
  requests : List HttpRequest
  tree : FileTree

def readConfig (tree : FileTree) (path : Path) : Except Failure Config :=
  match tree.readText path with
  | .error fault => .error (.file fault)
  | .ok text =>
    match Config.parse? text with
    | some config => .ok config
    | none => .error .malformedConfig

/-- Writes a configuration to a file: what comes of it, and the files afterwards. -/
def saveConfig (tree : FileTree) (config : Config) (path : Path) :
    Except Failure Unit × FileTree :=
  match config.text? with
  | none => (.error .unwritableConfig, tree)
  | some text =>
    match tree.writeFile path (some text) with
    | .error fault => (.error (.file fault), tree)
    | .ok tree => (.ok (), tree)

/-- The configuration that a command starts from: in the named file, or in the usual one if it
exists. -/
private def baseConfig (tree : FileTree) : Option Path → Except Failure Config
  | some path => (readConfig tree path).mapError (.inContext ("Failed to load " ++ path.text))
  | none =>
    if tree.exists? defaultConfigPath then readConfig tree defaultConfigPath else .ok .standard

def Selection.config (s : Selection) (tree : FileTree) : Except Failure Config := do
  let config ← baseConfig tree s.config?
  return { config with
    benchmarksDir := s.benchmarksDir?.getD config.benchmarksDir
    sqlDir := s.sqlDir?.getD config.sqlDir
    activeBenchmarks? := (s.activeBenchmarks?.map splitList).or config.activeBenchmarks?
    activeVariables? := s.activeVariables?.or config.activeVariables? }

def loader (config : Config) (service : Service) : Loader :=
  ⟨config, service, .ofDirectory ⟨config.classpathRoots⟩ config.sqlDir, Regex.finder⟩

private def tableLine (name dataSource runs prewarms concurrency queries : String) : String :=
  String.intercalate " "
    [SummaryTable.pad 40 name, SummaryTable.pad 15 dataSource, SummaryTable.pad 6 runs,
      SummaryTable.pad 9 prewarms, SummaryTable.pad 12 concurrency, SummaryTable.pad 10 queries]

private def benchmarkLine (b : Benchmark) : String :=
  tableLine (b.uniqueName?.getD b.name) b.dataSource (toString b.runs) (toString b.prewarmRuns)
    (toString b.concurrency) (toString b.queries.length)

private def benchmarkLines (bs : List Benchmark) : List String :=
  ["Benchmarks (" ++ toString bs.length ++ "):", "",
    tableLine "Name" "Data Source" "Runs" "Prewarms" "Concurrency" "Queries",
    String.ofList (List.replicate 96 '-')] ++ bs.map benchmarkLine

private def validationLines (files : List Resource) (bs : List Benchmark) : List String :=
  ["Benchmark validation passed!", "Total files: " ++ toString files.length,
    "Total benchmarks: " ++ toString bs.length] ++
    bs.map fun b => "  - " ++ b.name ++ " (" ++ b.dataSource ++ ")"

private def noTrace : Trace := ⟨false, [], []⟩

def failed (tree : FileTree) (failure : Failure) : Outcome :=
  ⟨some (.error failure), noTrace, [], tree⟩

def loaded {α : Type} (tree : FileTree) (load : Await α) (context : String)
    (print : α → List String) : Outcome :=
  match load.runFrom noTrace with
  | (.ok a, trace) => ⟨some (.ok (print a)), trace, [], tree⟩
  | (.error e, trace) => ⟨some (.error (.inContext context (.load e))), trace, [], tree⟩
  | (.pending, trace) => ⟨none, trace, [], tree⟩

private def loadContext : String := "Could not load benchmarks"

private def dryRunNotice : String := "Dry run: results service is not contacted"

def resolve (s : Surroundings) (config : Config) (sequenceId? : Option String)
    (dryRun json : Bool) : Outcome :=
  let print (bs : List Benchmark) : List String :=
    if json then [(Benchmark.listJson bs).pretty] else benchmarkLines bs
  let load (service : Service) : Await (List Benchmark) :=
    (loader config service).load s.tree (sequenceId?.getD s.sequenceId)
  if dryRun then
    loaded s.tree (do Load.note dryRunNotice; load .offline) loadContext print
  else match ServiceClient.ofUrl config.serviceUrl with
    | .error e => failed s.tree (.load e)
    | .ok client =>
      let outcome := loaded s.tree (load (client.service s.respond)) loadContext print
      { outcome with requests := outcome.trace.calls.filterMap client.request? }

def validate (s : Surroundings) (config : Config) : Outcome :=
  let loader := loader config .offline
  match (loader.find s.tree).run.run noTrace with
  | (.error e, trace) => ⟨some (.error (.load e)), trace, [], s.tree⟩
  | (.ok found, trace) =>
    let (result, trace) := (loader.expand s.tree "validate" found).run.run trace
    let printed := (result.map (validationLines found.files)).mapError fun e =>
      .inContext "Benchmark validation failed" (.load e)
    ⟨some printed, trace, [], s.tree⟩

private def writeConfig (s : Surroundings) (output : Path) : Outcome :=
  match saveConfig s.tree .standard output with
  | (.error failure, tree) => failed tree failure
  | (.ok (), tree) => ⟨some (.ok ["Configuration saved to " ++ output.text]), noTrace, [], tree⟩

/-- Does what is to be done with the configuration of a selection. -/
private def withConfig (s : Surroundings) (selection : Selection) (act : Config → Outcome) :
    Outcome :=
  match selection.config s.tree with
  | .error failure => failed s.tree failure
  | .ok config => act config

def run (s : Surroundings) : Command → Outcome
  | .resolve selection sequenceId? skipFrequencyCheck dryRun json =>
    withConfig s selection fun config =>
      resolve s { config with frequencyCheck := config.frequencyCheck && !skipFrequencyCheck }
        sequenceId? dryRun json
  | .list selection =>
    withConfig s selection fun config =>
      loaded s.tree (liftM ((loader config .offline).loadAll s.tree "list")) loadContext
        benchmarkLines
  | .validate selection => withConfig s selection (validate s)
  | .init output => writeConfig s output

end RunPlan.CommandLine
