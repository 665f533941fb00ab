import RunPlan.Benchmark.Basic

/-!
The text of a query file: a header of `--! key: value` lines, then the query.
-/

set_option autoImplicit false

namespace RunPlan.QueryFile

open RunPlan.Text

def headerMark : List Char := ['-', '-', '!']

def headerText? (line : List Char) : Option (List Char) := headerMark.isPrefixOf? (trimStart line)

/-- The attribute of a header line; a line without `:` gives none. -/
def attribute? (line : List Char) : Option (String × String) :=
  ((headerText? line).bind (cut ':')).map fun (key, value) =>
    (String.ofList (trim key), String.ofList (trim value))

def cutHeader (ls : List (List Char)) : List (List Char) × List (List Char) :=
  ls.span fun line => (headerText? line).isSome

def read (name content : String) : Query :=
  let (header, body) := cutHeader (lines content.toList)
  ⟨name, String.ofList (trim (join ['\n'] body)), OrderedMap.ofList (header.filterMap attribute?)⟩

end RunPlan.QueryFile
