import RunPlan.Binary64.Basic

/-!
JSON values. Objects keep the order of their members.
-/

set_option autoImplicit false

namespace RunPlan

/-- A number that is whole, or one that is not or is too large. -/
inductive Json.Number
  | int (i : Int)
  | float (x : Binary64)
  deriving DecidableEq, Repr

/-- A JSON value. -/
inductive Json
  | null
  | bool (b : Bool)
  | number (n : Json.Number)
  | string (s : String)
  | array (items : List Json)
  | object (members : List (String × Json))
  deriving Repr, Inhabited

namespace Json

def int (i : Int) : Json := .number (.int i)

def strings (items : List String) : Json := .array (items.map .string)

end Json

end RunPlan
