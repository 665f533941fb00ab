import RunPlan.Location
import RunPlan.FileTree.Walk
import RunPlan.Glob.Match

/-!
Finding and reading files by location.
-/

set_option autoImplicit false

namespace RunPlan

/-- A file or directory, and the location that it was found by. -/
structure Resource where
  location : String
  path : Path
  deriving DecidableEq, Repr

namespace Resource

/-- The resource that a path relative to the directory of this one names. -/
def sibling (r : Resource) (relative : String) : Resource :=
  let path := (r.path.parent?.getD ⟨""⟩).join relative
  ⟨path.text, path⟩

def readText (tree : FileTree) (r : Resource) : Except LoadError String :=
  (tree.readText r.path).mapError (.readFailure r.path)

end Resource

/-- Looks locations up. Class path locations are tried below each root in order. -/
structure Reader where
  roots : List Path
  deriving DecidableEq, Repr

namespace Reader

def standard : Reader := ⟨[⟨"."⟩]⟩

def find? (reader : Reader) (tree : FileTree) : Location → Option Path
  | .classpath relative => (reader.roots.map (·.join relative)).find? tree.exists?
  | .file path => if tree.exists? path then some path else none
  | .undecodable _ => none

def resolve (reader : Reader) (tree : FileTree) (location : String) :
    Except LoadError Resource := do
  match reader.find? tree (← Location.parse location) with
  | some path => return ⟨location, path⟩
  | none => .error (.locationNotFound location .missing)

/-- The files below a directory whose relative path a pattern matches, as they are found. -/
def matching (tree : FileTree) (base : Resource) (pattern : String) :
    Except LoadError (List Path) := do
  let tokens ← (Glob.parse pattern).mapError fun fault => .invalidConfig (.badGlob pattern fault)
  let files ← (tree.walk base.path).mapError (.readFailure base.path)
  return files.filter fun file => Glob.Matches tokens (base.path.relativeTo file)

/-- The files below a directory whose relative path a pattern matches, in the order of their
paths. -/
def glob (tree : FileTree) (base : Resource) (pattern : String) :
    Except LoadError (List Resource) := do
  let files ← matching tree base pattern
  let sorted := files.mergeSort fun p q => p.compare q != .gt
  return sorted.map fun path => ⟨path.text, path⟩

end Reader

end RunPlan
