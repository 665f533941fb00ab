import RunPlan.Template.Compile
import RunPlan.Template.Render
import RunPlan.Error

/-!
Evaluating variables: each value that holds a template is rendered once, in the order of the map,
against the values as they are by then. What comes out must not hold a template again.
-/

set_option autoImplicit false

namespace RunPlan.Template

open RunPlan.Text

/-- Whether a text holds `${`, at least one character, and then `}`. -/
def isTemplated (value : String) : Bool :=
  match cutAt ['$', '\x7b'] value.toList with
  | some (_, after) => (after.drop 1).contains '\x7d'
  | none => false

def renderValue (vars : Variables) (name value : String) : Except LoadError String := do
  let nodes ← (compile value).mapError (.templateFailure value)
  let rendered ← (render nodes vars).mapError (.templateFailure value)
  if isTemplated rendered then throw (.recursiveSubstitution name value)
  return rendered

def evaluateVariable (vars : Variables) (name : String) : Except LoadError Variables :=
  match vars.get? name with
  | some value =>
    if isTemplated value then
      (renderValue vars name value).map fun rendered => vars.insert name rendered
    else .ok vars
  | none => .ok vars

/-- Where an evaluation stopped: the error, and the variables at that time. -/
structure Halt where
  error : LoadError
  vars : Variables

def evaluateNames (vars : Variables) : List String → Except Halt Variables
  | [] => .ok vars
  | name :: names =>
    match evaluateVariable vars name with
    | .ok vars => evaluateNames vars names
    | .error e => .error ⟨e, vars⟩

def evaluate (vars : Variables) : Except Halt Variables :=
  evaluateNames vars vars.keys

end RunPlan.Template
