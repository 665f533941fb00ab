/-!
The syntax of value templates: interpolations, conditional parts and loops inside plain text, and
the faults that reading or rendering one can have.
-/

set_option autoImplicit false

namespace RunPlan.Template

/-- A piece of a template, cut out before any nesting is known. -/
inductive Token
  | text (cs : List Char)
  | interpolation (expression : List Char)
  | ifStart (condition : List Char)
  | elseIf (condition : List Char)
  | otherwise
  | ifEnd
  | listStart (header : List Char)
  | listEnd
  deriving DecidableEq, Repr

/-- The test of a conditional part. -/
inductive Condition
  | truthy (name : String)
  | falsy (name : String)
  | equals (name literal : String)
  | differs (name literal : String)
  deriving DecidableEq, Repr

/-- A node of a compiled template. -/
inductive Node
  | text (s : String)
  | interpolation (name : String) (default? : Option String)
  | choice (branches : List (Condition × List Node)) (otherwise : List Node)
  | loop (source item : String) (body : List Node)
  deriving Repr

/-- What can be wrong with a template, or with the variables it is rendered against. -/
inductive Fault
  | unterminatedInterpolation
  | emptyInterpolation
  | unterminatedClosing
  | unknownClosing (name : String)
  | unterminatedDirective
  | unsupportedDirective (directive : String)
  | unexpected (token : Token)
  | unclosedIf (found : Option Token)
  | unclosedElse
  | unclosedList (header : String)
  | badListHeader (header : String)
  | invalidName (name : String)
  | missingLiteral (found : String)
  | undefined (name : String)
  deriving DecidableEq, Repr

end RunPlan.Template
