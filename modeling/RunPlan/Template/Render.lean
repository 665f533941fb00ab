import RunPlan.Template.Syntax
import RunPlan.Text.ItemList
import RunPlan.OrderedMap

/-!
Rendering a node tree against variables. Loop items hide variables of the same name, the innermost
loop first.
-/

set_option autoImplicit false

namespace RunPlan.Template

open RunPlan.Text

/-- What a name can refer to: loop items, innermost first, and variables. -/
structure Scope where
  items : List (String × String)
  vars : Variables

namespace Scope

def get? (scope : Scope) (name : String) : Option String :=
  (scope.items.lookup name).or (scope.vars.get? name)

def get (scope : Scope) (name : String) : Except Fault String :=
  match scope.get? name with
  | some value => .ok value
  | none => .error (.undefined name)

def push (scope : Scope) (item value : String) : Scope :=
  { scope with items := (item, value) :: scope.items }

/-- A name is true when it has a value other than the empty text and `false`. -/
def truthy (scope : Scope) (name : String) : Bool :=
  match scope.get? name with
  | some value => value != "" && value != "false"
  | none => false

end Scope

/-- Tests a condition; only a comparison needs a defined variable. -/
def Condition.holds (scope : Scope) : Condition → Except Fault Bool
  | .truthy name => .ok (scope.truthy name)
  | .falsy name => .ok (!scope.truthy name)
  | .equals name literal => (scope.get name).map (· == literal)
  | .differs name literal => (scope.get name).map (· != literal)

mutual

def Node.render (scope : Scope) : Node → Except Fault String
  | .text s => .ok s
  | .interpolation name default? =>
    match scope.get? name, default? with
    | some value, _ => .ok value
    | none, some default => .ok default
    | none, none => .error (.undefined name)
  | .choice branches otherwise => do
    match ← renderBranches scope branches with
    | some text => return text
    | none => renderAll scope otherwise
  | .loop source item body => do
    let value ← scope.get source
    let parts ← (splitList value).mapM fun v => renderAll (scope.push item v) body
    return String.join parts

def renderAll (scope : Scope) : List Node → Except Fault String
  | [] => .ok ""
  | n :: ns => do
    let first ← n.render scope
    let rest ← renderAll scope ns
    return first ++ rest

/-- The text of the first branch whose condition holds, if one does. -/
def renderBranches (scope : Scope) :
    List (Condition × List Node) → Except Fault (Option String)
  | [] => .ok none
  | (condition, body) :: rest => do
    if ← condition.holds scope then (renderAll scope body).map some
    else renderBranches scope rest

end

def render (nodes : List Node) (vars : Variables) : Except Fault String :=
  renderAll ⟨[], vars⟩ nodes

end RunPlan.Template
