import RunPlan.Toml.Parser
import RunPlan.Toml.Printer
import RunPlan.Path

/-!
The configuration, and how it is kept in a TOML file. What a file does not say has its default.
-/

set_option autoImplicit false

namespace RunPlan

/-- Where benchmarks and queries are, which benchmarks are wanted, and the results service. -/
structure Config where
  benchmarksDir : String := "benchmarks"
  sqlDir : String := "sql"
  environmentName : String := "default"
  activeBenchmarks? : Option (List String) := none
  activeVariables? : Option String := none
  frequencyCheck : Bool := true
  classpathRoots : List Path := [⟨"."⟩]
  serviceUrl : String := "http://localhost:8080"
  serviceTimeout : Nat := 30
  deriving DecidableEq, Repr

namespace Config

def standard : Config := {}

/-- Whether a benchmark is wanted. Without a list all are. -/
def isActive (c : Config) (name : String) : Bool :=
  match c.activeBenchmarks? with
  | some names => names.contains name
  | none => true

def readText : Toml → Option String
  | .string s => some s
  | _ => none

def readTexts : Toml → Option (List String)
  | .array items => items.mapM readText
  | _ => none

def readBool : Toml → Option Bool
  | .boolean b => some b
  | _ => none

def readNat : Toml → Option Nat
  | .integer i => if 0 ≤ i then some i.toNat else none
  | _ => none

def readKey {α : Type} (entries : List (String × Toml)) (key : String) (read : Toml → Option α)
    (default : α) : Option α :=
  match entries.lookup key with
  | some v => read v
  | none => some default

/-- Reads the settings of the service from a table, or from an array that lists them in order. -/
def readService (c : Config) : Toml → Option Config
  | .table entries => do
    let serviceUrl ← readKey entries "url" readText c.serviceUrl
    let serviceTimeout ← readKey entries "timeout-secs" readNat c.serviceTimeout
    return { c with serviceUrl, serviceTimeout }
  | .array items => do
    let entries := ["url", "timeout-secs"].zip items
    let serviceUrl ← readKey entries "url" readText c.serviceUrl
    let serviceTimeout ← readKey entries "timeout-secs" readNat c.serviceTimeout
    return { c with serviceUrl, serviceTimeout }
  | _ => none

def ofEntries? (entries : List (String × Toml)) : Option Config := do
  let c := standard
  let benchmarksDir ← readKey entries "benchmarks-dir" readText c.benchmarksDir
  let sqlDir ← readKey entries "sql-dir" readText c.sqlDir
  let environmentName ← readKey entries "environment-name" readText c.environmentName
  let activeBenchmarks? ← readKey entries "active-benchmarks" (fun v => (readTexts v).map some)
    c.activeBenchmarks?
  let activeVariables? ← readKey entries "active-variables" (fun v => (readText v).map some)
    c.activeVariables?
  let frequencyCheck ← readKey entries "frequency-check-enabled" readBool c.frequencyCheck
  let classpathRoots ← readKey entries "classpath-roots"
    (fun v => (readTexts v).map fun roots => roots.map Path.mk) c.classpathRoots
  let c := { c with
    benchmarksDir, sqlDir, environmentName, activeBenchmarks?, activeVariables?, frequencyCheck,
    classpathRoots }
  match entries.lookup "service" with
  | some service => c.readService service
  | none => return c

def parse? (text : String) : Option Config := (Toml.parse? text).bind ofEntries?

/-- The text of a configuration file. A time above the largest integer of the format has none. -/
def text? (c : Config) : Option String :=
  if Toml.maxInteger < c.serviceTimeout then none
  else some (String.join
    [Toml.assignment "benchmarks-dir" (Toml.stringText c.benchmarksDir),
      Toml.assignment "sql-dir" (Toml.stringText c.sqlDir),
      Toml.assignment "environment-name" (Toml.stringText c.environmentName),
      (c.activeBenchmarks?.map fun names =>
        Toml.assignment "active-benchmarks" (Toml.stringsText names)).getD "",
      (c.activeVariables?.map fun e =>
        Toml.assignment "active-variables" (Toml.stringText e)).getD "",
      Toml.assignment "frequency-check-enabled" (if c.frequencyCheck then "true" else "false"),
      Toml.assignment "classpath-roots" (Toml.stringsText (c.classpathRoots.map Path.text)),
      "\n[service]\n",
      Toml.assignment "url" (Toml.stringText c.serviceUrl),
      Toml.assignment "timeout-secs" (toString c.serviceTimeout)])

end Config

end RunPlan
