import RunPlan.Yaml.Value
import RunPlan.Binary64.Shortest
import RunPlan.Text.Quoted

/-!
How values are written outside documents: numbers in their own text, and whole values with the kind
of each part, for messages.
-/

set_option autoImplicit false

namespace RunPlan.Yaml

open RunPlan.Text

def Number.text : Number → String
  | .int i => toString i
  | .float x => x.pointText

def boolText (b : Bool) : String := if b then "true" else "false"

mutual

def Value.describe : Value → String
  | .null => "Null"
  | .bool b => "Bool(" ++ boolText b ++ ")"
  | .number n => "Number(" ++ n.text ++ ")"
  | .string s => "String(" ++ quoted s ++ ")"
  | .sequence items => "Sequence [" ++ String.intercalate ", " (describeItems items) ++ "]"
  | .mapping entries =>
    "Mapping \x7b" ++ String.intercalate ", " (describeEntries entries) ++ "\x7d"
  | .tagged tag value =>
    "TaggedValue \x7b tag: !" ++ bareTag tag ++ ", value: " ++ value.describe ++ " \x7d"

private def describeItems : List Value → List String
  | [] => []
  | v :: vs => v.describe :: describeItems vs

/-- The entries of a mapping; keys that are truth values, numbers or texts stand alone. -/
private def describeEntries : List (Value × Value) → List String
  | [] => []
  | (k, v) :: es =>
    ((match k with
      | .bool b => boolText b
      | .number n => n.text
      | .string s => quoted s
      | k => k.describe) ++ ": " ++ v.describe) :: describeEntries es

end

end RunPlan.Yaml
