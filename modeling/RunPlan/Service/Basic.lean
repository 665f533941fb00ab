import RunPlan.Benchmark.Basic

/-!
The results service, which knows every benchmark by a unique name and when it last ran, and what a
load leaves behind: its calls of the service and its messages.
-/

set_option autoImplicit false

namespace RunPlan

/-- What a benchmark is named by: its name and its free variables. -/
structure NameRequest where
  name : String
  vars : Variables
  deriving DecidableEq

/-- How a call of the service ends: with an answer, with an error, or never. -/
inductive Reply (α : Type)
  | answer (a : α)
  | failure (e : LoadError)
  | hang

/-- What a call of the service does. It may cancel the load before it ends. -/
structure Response (α : Type) where
  cancels : Bool
  reply : Reply α

/-- A results service. -/
structure Service where
  uniqueNames : List NameRequest → Response (List String)
  executionAges : List String → Response (List Span)

/-- A call of the service. -/
inductive ServiceCall
  | names (requests : List NameRequest)
  | ages (uniqueNames : List String)
  deriving DecidableEq

/-- What a load has done so far, and whether it was cancelled. -/
structure Trace where
  cancelled : Bool
  calls : List ServiceCall
  log : List String

/-- A part of a load that goes through without waiting for the service. -/
abbrev Load (α : Type) := ExceptT LoadError (StateM Trace) α

namespace Load

def note (message : String) : Load Unit := modify fun t => { t with log := t.log ++ [message] }

def checkCancelled : Load Unit := do
  if (← get).cancelled then throw .cancelled

end Load

/-- How a part of a load ends that waits for the service. One that waits forever is pending. -/
inductive Ending (α : Type)
  | ok (a : α)
  | error (e : LoadError)
  | pending

def Ending.ofExcept {α : Type} : Except LoadError α → Ending α
  | .ok a => .ok a
  | .error e => .error e

def Reply.ending {α : Type} : Reply α → Ending α
  | .answer a => .ok a
  | .failure e => .error e
  | .hang => .pending

/-- A part of a load that may wait for the service. -/
structure Await (α : Type) where
  runFrom : Trace → Ending α × Trace

instance : Monad Await where
  pure a := ⟨fun t => (.ok a, t)⟩
  bind x f := ⟨fun t =>
    match x.runFrom t with
    | (.ok a, t) => (f a).runFrom t
    | (.error e, t) => (.error e, t)
    | (.pending, t) => (.pending, t)⟩

instance : MonadLift Load Await where
  monadLift x := ⟨fun t => (.ofExcept (x.run.run t).1, (x.run.run t).2)⟩

namespace Await

variable {α : Type}

/-- A step that waits forever goes on waiting unless the load is cancelled meanwhile. -/
def orCancelled (step : Await α) : Await α where
  runFrom t :=
    match step.runFrom t with
    | (.pending, t) => (if t.cancelled then .error .cancelled else .pending, t)
    | run => run

/-- Races a step against the cancellation of the load, which comes first: the step is not even
started when the load was cancelled before. -/
def cancellable (step : Await α) : Await α := do
  Load.checkCancelled
  step.orCancelled

def call (c : ServiceCall) (r : Response α) : Await α where
  runFrom t :=
    (r.reply.ending, { t with calls := t.calls ++ [c], cancelled := t.cancelled || r.cancels })

def callFor (path : String) (n : Nat) (c : ServiceCall) (r : Response (List α)) :
    Await (List α) := do
  let as ← call c r
  if as.length ≠ n then
    (throw (.serviceProtocolMismatch path n as.length) : Load Unit)
  return as

end Await

namespace Service

def namesPath : String := "v1/benchmark/generate-unique-names"

def agesPath : String := "v1/benchmark/get-successful-execution-ages"

def respond {α : Type} (a : α) : Response α := ⟨false, .answer a⟩

def offlineName (r : NameRequest) : String :=
  String.intercalate "_" (r.name :: r.vars.entries.map fun (k, v) => k ++ "=" ++ v)

/-- A service that needs no network: every benchmark has the same age. -/
def offlineWithAge (age : Span) : Service where
  uniqueNames requests := respond (requests.map offlineName)
  executionAges names := respond (names.map fun _ => age)

/-- The largest number of days that the offline service can tell. -/
def offlineDays : Int := 2147483647

def offline : Service := offlineWithAge (Span.ofDays offlineDays)

end Service

end RunPlan
