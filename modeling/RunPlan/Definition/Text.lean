import RunPlan.Yaml.Display
import RunPlan.Text.ItemList

/-!
The text forms of values: variables hold texts only, so sequences become item lists.
-/

set_option autoImplicit false

namespace RunPlan.Yaml

open RunPlan.Text

mutual

/-- The text of a value; nothing has none. -/
def Value.text? : Value → Option String
  | .null => none
  | .bool b => some (boolText b)
  | .number n => some n.text
  | .string s => some s
  | .sequence items => some (joinList (itemTexts items))
  | .mapping entries => some ("\x7b" ++ String.intercalate ", " (entryTexts entries) ++ "\x7d")
  | .tagged _ value => value.text?

def itemTexts : List Value → List String
  | [] => []
  | v :: vs =>
    match v.text? with
    | some s => s :: itemTexts vs
    | none => itemTexts vs

/-- The texts of the entries; what has no text counts as empty. -/
private def entryTexts : List (Value × Value) → List String
  | [] => []
  | (k, v) :: es => (k.text?.getD "" ++ "=" ++ v.text?.getD "") :: entryTexts es

end

def Value.textOrEmpty (v : Value) : String := v.text?.getD ""

/-- The texts that a value lists: the items of a sequence, or those of an item list. -/
def Value.textList? : Value → Option (List String)
  | .null => none
  | .sequence items => some (itemTexts items)
  | v => v.text?.map splitList

end RunPlan.Yaml
