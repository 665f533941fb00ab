import RunPlan.Yaml.Node
import RunPlan.OrderedMap

/-!
Anchors and references to them. Anchors get numbers in the order of the text; a number is the count
of different names before it, so an anchor that repeats a name shares its number with the next new
one, and a reference means the last node with the number that its name had.
-/

set_option autoImplicit false

namespace RunPlan.Yaml.Node

abbrev Numbering := OrderedMap String Nat

def Numbering.enter (names : Numbering) : Option String → Option Nat × Numbering
  | some name => (some names.size, names.insert name names.size)
  | none => (none, names)

mutual

/-- Replaces names by numbers. A reference to a name that has none yet is an error. -/
def number (names : Numbering) : Node String → Option (Node Nat × Numbering)
  | .reference name => (names.get? name).map fun n => (.reference n, names)
  | .scalar anchor? tag? text plain =>
    let (n, names) := names.enter anchor?
    some (.scalar n tag? text plain, names)
  | .sequence anchor? tag? items =>
    let (n, names) := names.enter anchor?
    (numberItems names items).map fun (items, names) => (.sequence n tag? items, names)
  | .mapping anchor? tag? entries =>
    let (n, names) := names.enter anchor?
    (numberEntries names entries).map fun (entries, names) => (.mapping n tag? entries, names)

private def numberItems (names : Numbering) :
    List (Node String) → Option (List (Node Nat) × Numbering)
  | [] => some ([], names)
  | n :: ns => do
    let (n, names) ← number names n
    let (ns, names) ← numberItems names ns
    return (n :: ns, names)

private def numberEntries (names : Numbering) :
    List (Node String × Node String) → Option (List (Node Nat × Node Nat) × Numbering)
  | [] => some ([], names)
  | (k, v) :: es => do
    let (k, names) ← number names k
    let (v, names) ← number names v
    let (es, names) ← numberEntries names es
    return ((k, v) :: es, names)

end

def anchor? {α : Type} : Node α → Option α
  | .reference _ => none
  | .scalar a .. | .sequence a .. | .mapping a .. => a

mutual

def targets : Node Nat → List (Nat × Node Nat)
  | n@(.sequence _ _ items) => (n.anchor?.map (·, n)).toList ++ targetsOfItems items
  | n@(.mapping _ _ entries) => (n.anchor?.map (·, n)).toList ++ targetsOfEntries entries
  | n => (n.anchor?.map (·, n)).toList

private def targetsOfItems : List (Node Nat) → List (Nat × Node Nat)
  | [] => []
  | n :: ns => targets n ++ targetsOfItems ns

private def targetsOfEntries : List (Node Nat × Node Nat) → List (Nat × Node Nat)
  | [] => []
  | (k, v) :: es => targets k ++ targets v ++ targetsOfEntries es

end

mutual

def eventCount : Node Nat → Nat
  | .reference _ | .scalar .. => 1
  | .sequence _ _ items => 2 + eventCountOfItems items
  | .mapping _ _ entries => 2 + eventCountOfEntries entries

private def eventCountOfItems : List (Node Nat) → Nat
  | [] => 0
  | n :: ns => eventCount n + eventCountOfItems ns

private def eventCountOfEntries : List (Node Nat × Node Nat) → Nat
  | [] => 0
  | (k, v) :: es => eventCount k + eventCount v + eventCountOfEntries es

end

end RunPlan.Yaml.Node
