import RunPlan.Yaml.Layout
import RunPlan.Yaml.Anchor
import RunPlan.Yaml.Resolution

/-!
Reading a document: the value that its text stands for.
-/

set_option autoImplicit false

namespace RunPlan.Yaml

namespace Node

def maxDepth : Nat := 128

/-- How many references may be followed for each start and end of a node in the text. -/
private def referencesPerEvent : Nat := 100

/-- Follows a reference; the state is how many more may be followed. -/
def follow (targets : List (Nat × Node Nat)) : Node Nat → StateT Nat Option (Node Nat)
  | .reference n => fun left =>
    if left = 0 then none
    else ((targets.filter (·.1 == n)).getLast?.map Prod.snd).map fun node => (node, left - 1)
  | node => pure node

def withTag (tag? : Option (List UInt8)) (value : Value) : Value :=
  match tag?.bind localTag? with
  | some tag => .tagged tag value
  | none => value

/-- Adds the entries in order. A key that is present already is an error. -/
def distinctEntries (entries : List (Value × Value)) : Option Mapping :=
  entries.foldlM (fun (m : Mapping) e => if m.hasKey e.1 then none else some (m ++ [e])) []

/-- The value of a scalar; other nodes have none. -/
def scalarNode? : Node Nat → Option Value
  | .scalar _ tag? text plain => (scalarValue? (tag?.bind untagged?) text plain).map (withTag tag?)
  | _ => none
where
  /-- A tag of the author's own leaves the reading of the scalar as it is. -/
  untagged? (tag : List UInt8) : Option (List UInt8) :=
    if (localTag? tag).isSome then none else some tag

/-- The value of a node in which collections are nested at most so deep. -/
def toValue (targets : List (Nat × Node Nat)) : Nat → Node Nat → StateT Nat Option Value
  | 0, node => do
    let node ← follow targets node
    StateT.lift (scalarNode? node)
  | depth + 1, node => do
    match ← follow targets node with
    | .sequence _ tag? items => do
      let values ← items.mapM (toValue targets depth)
      return withTag tag? (.sequence values)
    | .mapping _ tag? entries => do
      let entries ← entries.mapM fun (k, v) => do
        let key ← toValue targets depth k
        let value ← toValue targets depth v
        return (key, value)
      let entries ← StateT.lift (distinctEntries entries)
      return withTag tag? (.mapping entries)
    | node => StateT.lift (scalarNode? node)

end Node

/-- The value of a document; none if it is malformed. A document without a node is null. -/
def Value.parse? (text : String) : Option Value := do
  let tokens ← tokens? text
  match ← Node.ofTokens tokens with
  | none => return .null
  | some named =>
    let (node, _) ← Node.number {} named
    let (value, _) ←
      (node.toValue node.targets Node.maxDepth).run (node.eventCount * Node.referencesPerEvent)
    return value

end RunPlan.Yaml
