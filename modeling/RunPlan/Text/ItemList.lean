import RunPlan.Text.Split

/-!
Lists written as one text, with commas between the items.
-/

set_option autoImplicit false

namespace RunPlan.Text

/-- The items of a comma-separated text: trimmed, the empty ones left out. -/
def splitList (value : String) : List String :=
  (((split ',' value.toList).map trim).filter fun item => !item.isEmpty).map String.ofList

def joinList (items : List String) : String := String.intercalate ", " items

end RunPlan.Text
