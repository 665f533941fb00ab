import RunPlan.FileTree.Basic

/-!
Following a path through a tree: piece by piece, every link on the way replaced by its target. The
number of links is limited, so the way ends also where links lead in a circle.
-/

set_option autoImplicit false

namespace RunPlan.FileTree

open RunPlan.Text

/-- Where a path leads: to an entry, or to a directory without the name that comes next. -/
inductive Located
  | present (place : Place) (entry : Entry)
  | missing (directory : Place) (name : String) (pieces : List (List Char))
  deriving Repr

def maxLinks : Nat := 40

def maxNameBytes : Nat := 255

def maxPathBytes : Nat := 4095

/-- Goes on from a place along the given pieces. From a link on the way, `turn` goes on. -/
def advance (tree : FileTree) (turn : Place → List (List Char) → Except IoFault Located) :
    Place → List (List Char) → Except IoFault Located
  | here, [] =>
    match tree.at? here with
    | none => .error .notFound
    | some e => .ok (.present here e)
  | here, p :: ps =>
    match tree.at? here with
    | none => .error .notFound
    | some (.directory entries) =>
      if p = [] || p = ['.'] then tree.advance turn here ps
      else if p = ['.', '.'] then tree.advance turn here.dropLast ps
      else
        let name := String.ofList p
        if maxNameBytes < name.utf8ByteSize then .error .nameTooLong
        else match entries.lookup name with
          | none => .ok (.missing here name ps)
          | some (.link target) =>
            turn (if (Path.mk target).isAbsolute then [] else here)
              (split '/' target.toList ++ ps)
          | some _ => tree.advance turn (here ++ [name]) ps
    | some _ => .error .notDirectory

/-- Goes on from a place along the given pieces; so many links may be followed. -/
def follow (tree : FileTree) : Nat → Place → List (List Char) → Except IoFault Located
  | 0 => tree.advance fun _ _ => .error .tooManyLinks
  | links + 1 => tree.advance (tree.follow links)

def locate (tree : FileTree) (p : Path) : Except IoFault Located :=
  if p.text.toList.contains '\x00' then .error .nulByte
  else if p.text.isEmpty then .error .notFound
  else if maxPathBytes < p.text.utf8ByteSize then .error .nameTooLong
  else
    tree.follow maxLinks (if p.isAbsolute then [] else tree.workingDirectory)
      (split '/' p.text.toList)

def resolve (tree : FileTree) (p : Path) : Except IoFault (Place × Entry) :=
  match tree.locate p with
  | .ok (.present place entry) => .ok (place, entry)
  | .ok (.missing ..) => .error .notFound
  | .error fault => .error fault

def exists? (tree : FileTree) (p : Path) : Bool :=
  match tree.resolve p with
  | .ok _ => true
  | .error _ => false

def readText (tree : FileTree) (p : Path) : Except IoFault String :=
  match tree.resolve p with
  | .ok (_, .file (some text)) => .ok text
  | .ok (_, .file none) => .error .invalidText
  | .ok (_, .socket) => .error .noDevice
  | .ok (_, .directory _) => .error .isDirectory
  | .ok (_, .link _) => .error .notFound
  | .error fault => .error fault

end RunPlan.FileTree
