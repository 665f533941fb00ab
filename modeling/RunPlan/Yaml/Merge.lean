import RunPlan.Yaml.Value

/-!
Inheritance between mappings: a child keeps everything it says, and takes over what only its parent
says. Mappings under the same key are merged in turn; nothing else is.
-/

set_option autoImplicit false

namespace RunPlan.Yaml

mutual

def mergeValue (child : Value) : Value → Value
  | .mapping parent =>
    match child with
    | .mapping entries => .mapping (merge entries parent)
    | other => other
  | _ => child

/-- Merges a parent mapping into a child: keys of the child stay in place, the others follow in the
order of the parent. -/
def merge (child : Mapping) : List (Value × Value) → Mapping
  | [] => child
  | (key, value) :: parent =>
    merge
      (if child.hasKey key then
        child.map fun e => if key.same e.1 then (e.1, mergeValue e.2 value) else e
      else child ++ [(key, value)])
      parent

end

end RunPlan.Yaml
