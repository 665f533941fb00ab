import RunPlan.Benchmark.QueryFile
import RunPlan.Reader

/-!
Where queries come from: a file below the query directory for each name.
-/

set_option autoImplicit false

namespace RunPlan

open RunPlan.Text

abbrev QuerySource := FileTree → List String → Except LoadError (List Query)

namespace QuerySource

def locationOf (directory name : String) : String :=
  String.ofList (directory.toList.reverse.dropWhile (· = '/')).reverse ++ "/" ++ name

/-- The query in the file with a name, called as the file without its extension. -/
def query (reader : Reader) (directory : String) (tree : FileTree) (name : String) :
    Except LoadError Query := do
  let file ← reader.resolve tree (locationOf directory name)
  let content ← file.readText tree
  return QueryFile.read ((Path.mk name).stem?.getD name) content

def ofDirectory (reader : Reader) (directory : String) : QuerySource := fun tree names =>
  names.mapM (query reader directory tree)

end QuerySource

end RunPlan
