import RunPlan.Definition.Basic
import RunPlan.Yaml.Merge
import RunPlan.Reader
import RunPlan.Descriptor

/-!
Definitions that inherit from a base file. The chain of base files is followed file by file, told
apart by the places they stand at; a place that comes again ends it.
-/

set_option autoImplicit false

namespace RunPlan.Definition

open RunPlan.Yaml

def readFile (tree : FileTree) (file : Resource) : Except LoadError Mapping := do
  let text ← file.readText tree
  (parse text).mapError .parseFailure

def base? (file : Resource) (definition : Mapping) : Except LoadError (Option Resource) :=
  match definition.getText? Key.base with
  | none => .ok none
  | some (.string relative) => .ok (some (file.sibling relative))
  | some _ => .error (.baseNotAString file.path)

/-- Loads a file and its base files, of which at most `fuel` come; none may stand at a place in
`visited`. -/
def loadFrom (tree : FileTree) : Nat → List Place → Resource → Except LoadError Mapping
  | 0, _, file => .error (.parseFailure (.cyclicBase file.path))
  | fuel + 1, visited, file => do
    let (place, _) ← (tree.resolve file.path).mapError (.readFailure file.path)
    if visited.contains place then throw (.parseFailure (.cyclicBase file.path))
    let definition ← readFile tree file
    match ← base? file definition with
    | none => return definition
    | some base =>
      let parent ← loadFrom tree fuel (place :: visited) base
      return Yaml.merge (definition.erase (.string Key.base)) parent

/-- Loads a file with everything it inherits. Every file of a chain stands at a place of its own,
so there are no more of them than entries in the tree. -/
def load (tree : FileTree) (file : Resource) : Except LoadError Mapping :=
  loadFrom tree (Entry.countOf tree.entries + 2) [] file

end RunPlan.Definition
