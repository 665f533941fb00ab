import RunPlan.Yaml.Document
import RunPlan.Error

/-!
The text of a benchmark file as one mapping.
-/

set_option autoImplicit false

namespace RunPlan.Definition

open RunPlan.Text

def malformed : DefinitionFault := .malformed "malformed document"

/-- Reads the mapping at the top of a file. A file without content is an empty one. -/
def parse (text : String) : Except DefinitionFault Yaml.Mapping :=
  if allBlank text.toList then .ok []
  else match Yaml.Value.parse? text with
    | some (.mapping entries) => .ok entries
    | some .null => .ok []
    | some found => .error (.notMapping found)
    | none => .error malformed

end RunPlan.Definition
