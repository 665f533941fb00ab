import RunPlan.FileTree.Locate

/-!
Changing a tree: writing files, making directories and links, removing entries.
-/

set_option autoImplicit false

namespace RunPlan

namespace Entry

/-- Puts an entry at a place, or takes away the one there. Where the way to the place is not one
of directories nothing changes. -/
def set (new? : Option Entry) : Place → List (String × Entry) → List (String × Entry)
  | [], entries => entries
  | [name], entries =>
    match new? with
    | none => entries.filter (·.1 ≠ name)
    | some e =>
      if (entries.lookup name).isSome then
        entries.map fun old => if old.1 = name then (name, e) else old
      else entries ++ [(name, e)]
  | name :: names, entries =>
    entries.map fun old =>
      match old with
      | (n, .directory inner) =>
        if n = name then (n, .directory (set new? names inner)) else (n, .directory inner)
      | other => other

end Entry

namespace FileTree

open RunPlan.Text

def put (tree : FileTree) (place : Place) (e : Entry) : FileTree :=
  { tree with entries := Entry.set (some e) place tree.entries }

def remove (tree : FileTree) (place : Place) : FileTree :=
  { tree with entries := Entry.set none place tree.entries }

/-- Writes a file, which need not exist; its directory has to. -/
def writeFile (tree : FileTree) (p : Path) (text? : Option String) : Except IoFault FileTree :=
  match tree.locate p with
  | .ok (.present place (.file _)) => .ok (tree.put place (.file text?))
  | .ok (.present _ .socket) => .error .noDevice
  | .ok (.present ..) => .error .isDirectory
  | .ok (.missing place name []) => .ok (tree.put (place ++ [name]) (.file text?))
  | .ok (.missing _ _ pieces) =>
    .error (if pieces.all List.isEmpty then .isDirectory else .notFound)
  | .error fault => .error fault

/-- The directory that a path names its last piece in, and that piece. -/
private def lastPiece (p : Path) : Path × String :=
  match cutLast '/' p.text.toList with
  | some ([], name) => (⟨"/"⟩, String.ofList name)
  | some (front, name) => (⟨String.ofList front⟩, String.ofList name)
  | none => (⟨"."⟩, p.text)

def placeOf (tree : FileTree) (p : Path) : Except IoFault Place :=
  let (directory, name) := lastPiece p
  (tree.resolve directory).map fun (place, _) => place ++ [name]

def writeLink (tree : FileTree) (p : Path) (target : String) : Except IoFault FileTree :=
  (tree.placeOf p).map fun place => tree.put place (.link target)

/-- Takes away a file, a link or a directory with all that is in it. -/
def removePath (tree : FileTree) (p : Path) : Except IoFault FileTree :=
  (tree.placeOf p).map tree.remove

/-- Makes the directories along the given pieces that are missing. -/
private def makeDirectoriesFrom (tree : FileTree) (done : Path) :
    List (List Char) → Except IoFault FileTree
  | [] => .ok tree
  | piece :: pieces =>
    let next :=
      if done.text.isEmpty && piece = [] then Path.mk "/" else done.join (String.ofList piece)
    match tree.locate next with
    | .ok (.missing place name []) =>
      (tree.put (place ++ [name]) (.directory [])).makeDirectoriesFrom next pieces
    | .ok (.present _ (.directory _)) => tree.makeDirectoriesFrom next pieces
    | .ok (.present ..) => .error .notDirectory
    | .ok (.missing ..) => .error .notFound
    | .error fault => .error fault

def makeDirectories (tree : FileTree) (p : Path) : Except IoFault FileTree :=
  if p.text.isEmpty then .ok tree else tree.makeDirectoriesFrom ⟨""⟩ (split '/' p.text.toList)

end FileTree

end RunPlan
