import RunPlan.Binary64.Basic

/-!
TOML values.
-/

set_option autoImplicit false

namespace RunPlan

/-- A TOML value. Of dates and times only that they are some is kept. -/
inductive Toml
  | string (s : String)
  | integer (i : Int)
  | float (x : Binary64)
  | boolean (b : Bool)
  | datetime
  | array (items : List Toml)
  | table (entries : List (String × Toml))
  deriving Repr, Inhabited

namespace Toml

def minInteger : Int := -9223372036854775808

def maxInteger : Int := 9223372036854775807

end Toml

end RunPlan
