import RunPlan.Definition.Text
import RunPlan.Template.Evaluation
import RunPlan.Descriptor

/-!
From a definition to descriptors. Each variable group gives the combinations of its values, the
last variable changing fastest; every combination is completed by the other keys of the file and
then evaluated.
-/

set_option autoImplicit false

namespace RunPlan.Definition

open RunPlan.Yaml

def choices : List (String × List String) → List (List (String × String))
  | [] => [[]]
  | (name, values) :: rest =>
    values.flatMap fun value => (choices rest).map fun choice => (name, value) :: choice

def combinations (group : OrderedMap String (List String)) : List Variables :=
  (choices group.entries).map OrderedMap.ofList

def readValues (name : String) :
    List (Value × Value) → Except LoadError (List (String × List String))
  | [] => .ok []
  | (key, value) :: rest =>
    match value.textList? with
    | some values => (readValues name rest).map fun more => (key.textOrEmpty, values) :: more
    | none =>
      .error (.invalidValue (Key.groups ++ "." ++ name ++ "." ++ key.textOrEmpty) "" .nullValue)

def readGroup (name group : Value) : Except LoadError (OrderedMap String (List String)) :=
  match group with
  | .mapping entries => (readValues name.textOrEmpty entries).map OrderedMap.ofList
  | other =>
    .error (.invalidValue (Key.groups ++ "." ++ name.textOrEmpty) other.textOrEmpty .notGroup)

def readGroups : List (Value × Value) → Except LoadError (List Variables)
  | [] => .ok []
  | (name, group) :: rest => do
    let group ← readGroup name group
    let more ← readGroups rest
    return combinations group ++ more

/-- The variables that a file asks for; without groups, one candidate that binds nothing. -/
def candidates (definition : Mapping) : Except LoadError (List Variables) :=
  match definition.getText? Key.groups with
  | none | some .null => .ok [∅]
  | some (.mapping groups) =>
    (readGroups groups).map fun found => if found.isEmpty then [∅] else found
  | some other => .error (.invalidValue Key.groups other.textOrEmpty .notGroups)

def globals (definition : Mapping) : Variables :=
  OrderedMap.ofList (definition.filterMap fun (key, value) =>
    match key.text?, value.text? with
    | some key, some value => if key = Key.groups then none else some (key, value)
    | _, _ => none)

/-- A candidate with the other keys of the file, where it does not bind them itself. -/
def complete (globals candidate : Variables) : Variables :=
  globals.entries.foldl (fun vars (key, value) => vars.insertNew key value) candidate

def describe (vars : Variables) : Except LoadError Descriptor :=
  match Template.evaluate vars with
  | .ok vars => Descriptor.ofVariables vars
  | .error halt => .error halt.error

def descriptors (definition : Mapping) : Except LoadError (List Descriptor) := do
  let candidates ← candidates definition
  candidates.mapM fun candidate => describe (complete (globals definition) candidate)

end RunPlan.Definition
