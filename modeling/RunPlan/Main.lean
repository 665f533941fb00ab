import RunPlan.CommandLine.Run
import Std.Time

/-!
The program: it takes a picture of the files that a command can meet, runs the command on it, and
prints and writes what comes out. It has no network, so calls of the results service get no
response.
-/

set_option autoImplicit false

namespace RunPlan.Program

open RunPlan.Text

/-- The names that lead from the root to an absolute path without links. -/
def placeOf (path : String) : Place :=
  ((split '/' path.toList).filter fun piece => !piece.isEmpty).map String.ofList

def attempt {α : Type} (action : IO α) : IO (Option α) := do
  try return some (← action) catch _ => return none

/-- A name that no file has; a link that leads nowhere leads there. -/
def nowhere : String := "\x00"

/-- The items of a directory as entries, and the targets of the links among and below them. What
cannot be read is left out. -/
partial def readEntries : List IO.FS.DirEntry → IO (List (String × Entry) × List String)
  | [] => return ([], [])
  | item :: items => do
    let (entries, targets) ← readEntries items
    let metadata? ← attempt item.path.symlinkMetadata
    match metadata?.map IO.FS.Metadata.type with
    | some .dir =>
      let some inside ← attempt item.path.readDir | return (entries, targets)
      let (inner, more) ← readEntries inside.toList
      return ((item.fileName, .directory inner) :: entries, more ++ targets)
    | some .symlink =>
      match ← attempt (IO.FS.realPath item.path) with
      | some target =>
        return ((item.fileName, .link target.toString) :: entries, target.toString :: targets)
      | none => return ((item.fileName, .link nowhere) :: entries, targets)
    | some .file =>
      let some bytes ← attempt (IO.FS.readBinFile item.path) | return (entries, targets)
      return ((item.fileName, .file (ofBytes? bytes.toList)) :: entries, targets)
    | some .other => return ((item.fileName, .socket) :: entries, targets)
    | none => return (entries, targets)

/-- Puts an entry at a place, with the directories that lead to it. -/
def put (tree : FileTree) (place : Place) (e : Entry) : FileTree :=
  let directory : Path := ⟨"/" ++ String.intercalate "/" place.dropLast⟩
  match tree.makeDirectories directory with
  | .ok tree => tree.put place e
  | .error _ => tree

/-- The tree with everything at and below the given paths, and where links there lead to. The places
in `done` are in the tree already. -/
partial def picture (tree : FileTree) (done : List Place) : List String → IO FileTree
  | [] => return tree
  | path :: paths => do
    let some real ← attempt (IO.FS.realPath path) | picture tree done paths
    let place := placeOf real.toString
    let tree := if (Path.mk path).isAbsolute && placeOf path != place
      then put tree (placeOf path) (.link real.toString) else tree
    if place.isEmpty || done.any (·.isPrefixOf place) then picture tree done paths
    else match ← attempt real.readDir with
      | some inside =>
        let (entries, targets) ← readEntries inside.toList
        picture (put tree place (.directory entries)) (place :: done) (targets ++ paths)
      | none =>
        let some bytes ← attempt (IO.FS.readBinFile real) | picture tree done paths
        picture (put tree place (.file (ofBytes? bytes.toList))) (place :: done) paths

/-- The paths outside the working directory that a location can lead to. -/
def pathsOf (location : String) : List String :=
  match Location.parse location with
  | .ok (.file path) => [path.text]
  | _ => []

/-- The options of a command that say which benchmarks are meant. -/
def selection? : CommandLine.Command → Option CommandLine.Selection
  | .resolve selection .. | .list selection | .validate selection => some selection
  | .init _ => none

def treeFor (command : CommandLine.Command) : IO FileTree := do
  let here := (← IO.FS.realPath (← IO.currentDir)).toString
  let empty : FileTree := ⟨[], placeOf here⟩
  match selection? command, command with
  | some selection, _ =>
    let first := here :: (selection.config?.map Path.text).toList
    let tree ← picture empty [] first
    match selection.config tree with
    | .ok config =>
      picture empty [] (first ++ config.classpathRoots.map Path.text ++
        pathsOf config.benchmarksDir ++ pathsOf config.sqlDir)
    | .error _ => return tree
  | none, .init output =>
    picture empty [] (here :: output.text :: (output.parent?.map Path.text).toList)
  | none, _ => picture empty [] [here]

/-- Does what a command line says; the result is the exit status. -/
def run (arguments : List String) : IO UInt32 := do
  match CommandLine.parse arguments with
  | .error .misuse => IO.eprintln CommandLine.helpText; return 2
  | .error .help => IO.println CommandLine.helpText; return 0
  | .error .version => IO.println CommandLine.versionText; return 0
  | .ok command =>
    let now ← Std.Time.PlainDateTime.now
    let outcome := CommandLine.run
      ⟨← treeFor command, fun _ => none, now.format "uuuu-MM-dd_HH-mm-ss"⟩ command
    for message in outcome.trace.log do
      IO.println (now.format "uuuu-MM-dd'T'HH:mm:ss" ++ "  INFO " ++ message)
    match outcome.result?, command with
    -- without a network no call is waited for
    | none, _ => return 1
    | some (.error failure), _ => IO.eprint failure.report; return 1
    | some (.ok lines), .init output =>
      match outcome.tree.readText output with
      | .ok text => IO.FS.writeFile output.text text
      | .error _ => pure ()
      lines.forM IO.println
      return 0
    | some (.ok lines), _ => lines.forM IO.println; return 0

end RunPlan.Program

def main (arguments : List String) : IO UInt32 := RunPlan.Program.run arguments
