import RunPlan.Path
import RunPlan.Text.Split

/-!
The words of a command line as a command. A command has options, each at most once, and nothing
else.
-/

set_option autoImplicit false

namespace RunPlan.CommandLine

open RunPlan.Text

/-- Which benchmarks a command is about; what is not set is taken from the configuration. -/
structure Selection where
  config? : Option Path
  benchmarksDir? : Option String
  sqlDir? : Option String
  activeBenchmarks? : Option String
  activeVariables? : Option String
  deriving DecidableEq, Repr

/-- What the program can be told to do. -/
inductive Command
  | resolve (selection : Selection) (sequenceId? : Option String)
      (skipFrequencyCheck dryRun json : Bool)
  | list (selection : Selection)
  | validate (selection : Selection)
  | init (output : Path)
  deriving DecidableEq, Repr

/-- What else a command line can ask for, or that it is wrong. -/
inductive Stop
  | help
  | version
  | misuse
  deriving DecidableEq, Repr

/-- What follows an option: nothing, any text, or a path, which cannot be empty. -/
inductive OptionKind
  | switch
  | text
  | path
  deriving DecidableEq, Repr

/-- An option of a command. -/
structure OptionSpec where
  name : String
  letter? : Option Char
  kind : OptionKind
  deriving DecidableEq, Repr

abbrev Settings := List (String × String)

private def selectionOptions : List OptionSpec :=
  [⟨"config", some 'c', .path⟩, ⟨"benchmarks-dir", none, .text⟩, ⟨"sql-dir", none, .text⟩,
    ⟨"active-benchmarks", none, .text⟩, ⟨"active-variables", none, .text⟩]

private def resolveOptions : List OptionSpec :=
  selectionOptions ++
    [⟨"sequence-id", none, .text⟩, ⟨"no-frequency-check", none, .switch⟩,
      ⟨"dry-run", none, .switch⟩, ⟨"json", none, .switch⟩]

private def initOptions : List OptionSpec := [⟨"output", some 'o', .path⟩]

/-- One more setting. An option cannot be set twice. -/
def Settings.set (settings : Settings) (o : OptionSpec) (value : String) : Except Stop Settings :=
  if (settings.lookup o.name).isSome || (o.kind == .path && value.isEmpty) then .error .misuse
  else .ok ((o.name, value) :: settings)

/-- Whether a word can be the value of the option in front of it. -/
private def isValue (word : String) : Bool := word == "-" || word.toList.head? != some '-'

/-- The value of an option: the one at its own word, or the next word. -/
private def takeValue (attached? : Option String) (rest : List String) :
    Except Stop (String × List String) :=
  match attached?, rest with
  | some value, rest => .ok (value, rest)
  | none, word :: rest => if isValue word then .ok (word, rest) else .error .misuse
  | none, [] => .error .misuse

private theorem length_le_of_takeValue {attached? : Option String} {rest rest' : List String}
    {value : String} (h : takeValue attached? rest = .ok (value, rest')) :
    rest'.length ≤ rest.length := by
  unfold takeValue at h
  split at h
  · simp_all
  · split at h
    · simp_all
    · cases h
  · cases h

/-- Sets the option that one word names. The attached value is what the word itself says behind the
name. -/
private def applyOption (o? : Option OptionSpec) (attached? : Option String) (settings : Settings)
    (rest : List String) :
    Except Stop (Settings × { after : List String // after.length ≤ rest.length }) :=
  match o? with
  | none => .error .misuse
  | some o =>
    if o.kind = .switch then
      if attached?.isSome then .error .misuse
      else do return (← settings.set o "", ⟨rest, Nat.le_refl _⟩)
    else match h : takeValue attached? rest with
      | .ok (value, after) => do
        return (← settings.set o value, ⟨after, length_le_of_takeValue h⟩)
      | .error stop => .error stop

private def longOption (word : List Char) : String × Option String :=
  match cut '=' word with
  | some (name, value) => (String.ofList name, some (String.ofList value))
  | none => (String.ofList word, none)

/-- The value that stands behind the letter of an option, with or without `=`. -/
private def attachedValue : List Char → Option String
  | [] => none
  | '=' :: value => some (String.ofList value)
  | value => some (String.ofList value)

private def readOptions (known : List OptionSpec) (settings : Settings) :
    List String → Except Stop Settings
  | [] => .ok settings
  | word :: rest =>
    match word.toList with
    | ['-', '-'] => if rest.isEmpty then .ok settings else .error .misuse
    | '-' :: '-' :: long =>
      let (name, attached?) := longOption long
      if name = "help" then .error (if attached?.isSome then .misuse else .help)
      else match applyOption (known.find? (·.name = name)) attached? settings rest with
        | .ok (settings, ⟨after, _⟩) => readOptions known settings after
        | .error stop => .error stop
    | '-' :: letter :: value =>
      if letter = 'h' then .error .help
      else match applyOption (known.find? (·.letter? = some letter)) (attachedValue value) settings
          rest with
        | .ok (settings, ⟨after, _⟩) => readOptions known settings after
        | .error stop => .error stop
    | _ => .error .misuse
termination_by words => words.length
decreasing_by all_goals simp; omega

private def Selection.ofSettings (settings : Settings) : Selection where
  config? := (settings.lookup "config").map Path.mk
  benchmarksDir? := settings.lookup "benchmarks-dir"
  sqlDir? := settings.lookup "sql-dir"
  activeBenchmarks? := settings.lookup "active-benchmarks"
  activeVariables? := settings.lookup "active-variables"

/-- The file that a configuration is kept in, where no other is named. -/
def defaultConfigPath : Path := ⟨"benchplan.toml"⟩

def versionText : String := "benchplan 0.1.0"

def helpText : String :=
  String.intercalate "\n"
    ["Expand declarative benchmark files into the list of benchmarks to run", "",
      "Usage: benchplan <COMMAND>", "",
      "Commands:",
      "  resolve   Resolve the benchmarks to run for a sequence",
      "  list      List every benchmark the definitions expand to",
      "  validate  Check that every benchmark file loads",
      "  init      Write a default configuration file",
      "  help      Print this message", "",
      "Options of resolve, list and validate:",
      "  -c, --config <CONFIG>",
      "      --benchmarks-dir <BENCHMARKS_DIR>",
      "      --sql-dir <SQL_DIR>",
      "      --active-benchmarks <ACTIVE_BENCHMARKS>",
      "      --active-variables <ACTIVE_VARIABLES>", "",
      "Options of resolve:",
      "      --sequence-id <SEQUENCE_ID>",
      "      --no-frequency-check",
      "      --dry-run",
      "      --json", "",
      "Options of init:",
      "  -o, --output <OUTPUT>"]

private def commandNames : List String := ["resolve", "list", "validate", "init", "help"]

private def readHelp : List String → Stop
  | [] => .help
  | [name] => if commandNames.contains name then .help else .misuse
  | _ => .misuse

def parse : List String → Except Stop Command
  | [] => .error .misuse
  | "resolve" :: words => do
    let settings ← readOptions resolveOptions [] words
    let has (name : String) : Bool := (settings.lookup name).isSome
    return .resolve (.ofSettings settings) (settings.lookup "sequence-id")
      (has "no-frequency-check") (has "dry-run") (has "json")
  | "list" :: words => do
    return .list (.ofSettings (← readOptions selectionOptions [] words))
  | "validate" :: words => do
    return .validate (.ofSettings (← readOptions selectionOptions [] words))
  | "init" :: words => do
    let settings ← readOptions initOptions [] words
    return .init (((settings.lookup "output").map Path.mk).getD defaultConfigPath)
  | "help" :: words => .error (readHelp words)
  | "--help" :: _ => .error .help
  | "--version" :: _ => .error .version
  | word :: _ =>
    match word.toList with
    | '-' :: 'h' :: _ => .error .help
    | '-' :: 'V' :: _ => .error .version
    | _ => .error .misuse

end RunPlan.CommandLine
