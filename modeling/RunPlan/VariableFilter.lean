import RunPlan.Benchmark.Basic

/-!
Choosing benchmarks by the values of their variables. An expression lists conditions; each names a
variable and a pattern that its value has to hold. How patterns are read is left open.
-/

set_option autoImplicit false

namespace RunPlan

open RunPlan.Text

/-- A language of patterns: reading one gives the test whether it is found in a text, or says what
is wrong with it. -/
abbrev PatternReader := String → Except String (String → Bool)

/-- A condition on one variable. -/
structure VariableCondition where
  name : String
  found : String → Bool

/-- Conditions that all have to hold. -/
structure VariableFilter where
  conditions : List VariableCondition

namespace VariableFilter

def all : VariableFilter := ⟨[]⟩

def isEmpty (f : VariableFilter) : Bool := f.conditions.isEmpty

def readCondition (read : PatternReader) (piece : List Char) :
    Except LoadError VariableCondition :=
  match cut '=' piece with
  | none => .error (.invalidConfig (.notPair (String.ofList piece)))
  | some (name, pattern) =>
    let name := String.ofList (trim name)
    match read (String.ofList (trim pattern)) with
    | .ok found => .ok ⟨name, found⟩
    | .error detail => .error (.invalidConfig (.badPattern name detail))

/-- Reads conditions with commas between them. Without any text there are none. -/
def parse (read : PatternReader) (expression? : Option String) :
    Except LoadError VariableFilter :=
  let expression := trim ((expression?.getD "").toList)
  if expression.isEmpty then .ok all
  else do return ⟨← (split ',' expression).mapM (readCondition read)⟩

/-- Whether a benchmark has all variables that the filter names, with values to its liking. -/
def accepts (f : VariableFilter) (b : Benchmark) : Bool :=
  f.conditions.all fun c => (b.vars.get? c.name).any c.found

end VariableFilter

end RunPlan
