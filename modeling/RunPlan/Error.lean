import RunPlan.Template.Message
import RunPlan.Yaml.Display
import RunPlan.Url.Host
import RunPlan.Glob.Pattern
import RunPlan.FileTree.Basic

/-!
Everything that can go wrong while benchmarks are loaded, by cause. The wording stands in one
function, and the file in which a benchmark failed is a layer around its cause.
-/

set_option autoImplicit false

namespace RunPlan

open RunPlan.Text

/-- Why a location leads to nothing. -/
inductive LocationFault
  | missing
  | badUrl (fault : Url.Fault)
  | unsupportedScheme
  deriving DecidableEq, Repr

/-- Why the text of a benchmark file is no benchmark definition. -/
inductive DefinitionFault
  | malformed (detail : String)
  | notMapping (found : Yaml.Value)
  | cyclicBase (path : Path)
  deriving Repr

/-- Why a text is not the count that it should be. -/
inductive CountFault
  | empty
  | invalidDigit
  | tooLarge
  deriving DecidableEq, Repr

/-- Why a value cannot be used. -/
inductive ValueFault
  | count (fault : CountFault)
  | belowOne
  | notGroups
  | notGroup
  | nullValue
  deriving DecidableEq, Repr

/-- What is wrong with the configuration. -/
inductive ConfigFault
  | notPair (pair : String)
  | badPattern (name : String) (detail : String)
  | badGlob (pattern : String) (fault : Glob.Fault)
  | badServiceUrl (url : String) (fault : Url.Fault)
  deriving DecidableEq, Repr

/-- Why a call of the results service gave no answer that can be used. -/
inductive ServiceFault
  | status (code : Nat) (phrase? : Option String) (body : String)
  | transport (detail : String)
  | undecodable (detail : String)
  | invalidAge (days : String)
  | invalidDuration (text : String)
  | other (reason : String)
  deriving DecidableEq, Repr

/-- What can go wrong while benchmarks are loaded. -/
inductive LoadError
  | locationNotFound (location : String) (fault : LocationFault)
  | readFailure (path : Path) (fault : IoFault)
  | parseFailure (fault : DefinitionFault)
  | baseNotAString (path : Path)
  | missingMandatoryKey (key : String)
  | invalidValue (key value : String) (fault : ValueFault)
  | recursiveSubstitution (name expression : String)
  | templateFailure (expression : String) (fault : Template.Fault)
  | invalidConfig (fault : ConfigFault)
  | serviceUnavailable (endpoint : String) (fault : ServiceFault)
  | serviceProtocolMismatch (endpoint : String) (expected actual : Nat)
  | unnamedBenchmark (name : String)
  | miscounted (total selected excluded recent : Nat)
  | cancelled
  | inFile (path : String) (cause : LoadError)
  deriving Repr

def LocationFault.message (location : String) : LocationFault → String
  | .missing => location
  | .badUrl fault => location ++ ": " ++ fault.message
  | .unsupportedScheme => location ++ " (unsupported scheme)"

def DefinitionFault.message : DefinitionFault → String
  | .malformed detail => detail
  | .notMapping found => "top-level element must be a mapping, found " ++ found.describe
  | .cyclicBase path => "cyclic base reference through " ++ path.text

def CountFault.message : CountFault → String
  | .empty => "cannot parse integer from empty string"
  | .invalidDigit => "invalid digit found in string"
  | .tooLarge => "number too large to fit in target type"

def ValueFault.message : ValueFault → String
  | .count fault => fault.message
  | .belowOne => "must be at least 1"
  | .notGroups => "expected a mapping of variable groups"
  | .notGroup => "expected a mapping of variable values"
  | .nullValue => "null value"

def ConfigFault.message : ConfigFault → String
  | .notPair pair => "active variable '" ++ pair ++ "' is not of the form key=regex"
  | .badPattern name detail => "active variable " ++ name ++ ": " ++ detail
  | .badGlob pattern fault => "glob " ++ pattern ++ ": " ++ fault.message
  | .badServiceUrl url fault => "service url " ++ url ++ ": " ++ fault.message

def ServiceFault.message : ServiceFault → String
  | .status code phrase? body =>
    "status " ++ toString code ++ " " ++ phrase?.getD "<unknown status code>" ++ ": " ++ body
  | .transport detail => detail
  | .undecodable detail => "undecodable response: " ++ detail
  | .invalidAge days => "invalid age " ++ days
  | .invalidDuration text => "invalid ISO-8601 duration '" ++ text ++ "'"
  | .other reason => reason

namespace LoadError

def message : LoadError → String
  | .locationNotFound location fault => "Location not found: " ++ fault.message location
  | .readFailure path fault => "Failed to read " ++ path.text ++ ": " ++ fault.message
  | .parseFailure fault => "Failed to parse YAML: " ++ fault.message
  | .baseNotAString path => "base is not a string in " ++ path.text
  | .missingMandatoryKey key => "Mandatory variable " ++ key ++ " not present"
  | .invalidValue key value fault =>
    "Invalid value for " ++ key ++ ": '" ++ value ++ "' (" ++ fault.message ++ ")"
  | .recursiveSubstitution name expression =>
    "Recursive value substitution is not supported, invalid " ++ name ++ ": " ++ expression
  | .templateFailure expression fault =>
    "Could not evaluate value " ++ expression ++ ": " ++ fault.message
  | .invalidConfig fault => "Invalid configuration: " ++ fault.message
  | .serviceUnavailable endpoint fault =>
    "Results service call to " ++ endpoint ++ " failed: " ++ fault.message
  | .serviceProtocolMismatch endpoint expected actual =>
    "Results service " ++ endpoint ++ " returned " ++ toString actual ++ " items, expected " ++
      toString expected
  | .unnamedBenchmark name => "Invariant violated: benchmark " ++ name ++ " has no unique name"
  | .miscounted total selected excluded recent =>
    "Invariant violated: " ++ toString total ++ " benchmarks loaded but " ++ toString selected ++
      " selected, " ++ toString excluded ++ " excluded and " ++ toString recent ++
      " recently tested"
  | .cancelled => "Benchmark loading was cancelled"
  | .inFile path cause => "Could not load benchmark " ++ path ++ ": " ++ cause.message

def rootCause : LoadError → LoadError
  | .inFile _ cause => cause.rootCause
  | e => e

end LoadError

end RunPlan
