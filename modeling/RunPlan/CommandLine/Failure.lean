import RunPlan.Error
import RunPlan.Text.Split

/-!
How a failure is told at the end of a run: what failed, and below it what caused it.
-/

set_option autoImplicit false

namespace RunPlan

open RunPlan.Text

/-- The wording of an error and of everything that caused it, outermost first. -/
def LoadError.chain : LoadError → List String
  | .inFile path cause => (LoadError.inFile path cause).message :: cause.chain
  | .readFailure path fault => [(LoadError.readFailure path fault).message, fault.message]
  | e => [e.message]

namespace CommandLine

/-- Why a command came to nothing. -/
inductive Failure
  | load (error : LoadError)
  | file (fault : IoFault)
  | malformedConfig
  | unwritableConfig
  | inContext (context : String) (cause : Failure)
  deriving Repr

namespace Failure

/-- The wording of a failure and of everything that caused it, outermost first. -/
def chain : Failure → List String
  | .load error => error.chain
  | .file fault => [fault.message]
  | .malformedConfig => ["malformed configuration file"]
  | .unwritableConfig => ["out-of-range value for u64 type"]
  | .inContext context cause => context :: cause.chain

/-- A text with `first` before its first line and `others` before the others. -/
def indented (first others : String) (s : String) : String :=
  match split '\n' s.toList with
  | [] => first
  | line :: lines =>
    first ++ String.ofList line ++
      String.join (lines.map fun line => "\n" ++ others ++ String.ofList line)

def aligned (n : Nat) : String :=
  let digits := toString n
  String.ofList (List.replicate (5 - digits.length) ' ') ++ digits

private def numbered (n : Nat) : List String → List String
  | [] => []
  | cause :: causes => indented (aligned n ++ ": ") "       " cause :: numbered (n + 1) causes

/-- The lines of the causes. A single one has no number. -/
private def causeLines : List String → List String
  | [cause] => [indented "    " "    " cause]
  | causes => numbered 0 causes

private def reportChain : List String → String
  | [] => "Error: \n"
  | [top] => "Error: " ++ top ++ "\n"
  | top :: causes =>
    "Error: " ++ top ++ "\n\nCaused by:" ++
      String.join ((causeLines causes).map fun line => "\n" ++ line) ++ "\n"

def report (f : Failure) : String := reportChain f.chain

end Failure

end CommandLine

end RunPlan
