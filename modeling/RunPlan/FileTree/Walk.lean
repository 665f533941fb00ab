import RunPlan.FileTree.Locate

/-!
All files below a directory, through links too. A link that leads to nothing, or back to a directory
that is being walked, ends the walk, and so does a directory whose path is too long to be opened.
-/

set_option autoImplicit false

namespace RunPlan.FileTree

def walkFault : IoFault := .unwalkable "link leads nowhere or in a circle, or path is too long"

mutual

/-- The files below one entry, which is shown as `shown` and stands at `place`. `stack` are the
places of the directories being walked, and `enter` walks a directory that a link leads to. -/
def walkEntry (tree : FileTree)
    (enter : List Place → Place → Path → List (String × Entry) → Except IoFault (List Path))
    (stack : List Place) (place : Place) (shown : Path) : Entry → Except IoFault (List Path)
  | .file _ => .ok [shown]
  | .socket => .ok []
  | .directory entries =>
    if maxPathBytes < shown.text.utf8ByteSize then .error walkFault
    else tree.walkEntries enter (place :: stack) place shown entries
  | .link _ =>
    match tree.resolve shown with
    | .ok (target, .directory entries) =>
      if stack.contains target then .error walkFault
      else enter (target :: stack) target shown entries
    | .ok (_, .file _) => .ok [shown]
    | .ok (_, .socket) => .ok []
    | .ok (_, .link _) => .error walkFault
    | .error _ => .error walkFault

def walkEntries (tree : FileTree)
    (enter : List Place → Place → Path → List (String × Entry) → Except IoFault (List Path))
    (stack : List Place) (place : Place) (shown : Path) :
    List (String × Entry) → Except IoFault (List Path)
  | [] => .ok []
  | (name, e) :: es => do
    let first ← tree.walkEntry enter stack (place ++ [name]) (shown.join name) e
    let rest ← tree.walkEntries enter stack place shown es
    return first ++ rest

end

/-- The files below the entries of a directory that a link leads to, with at most so many links on
the way to one file, this one among them. -/
def enter (tree : FileTree) :
    Nat → List Place → Place → Path → List (String × Entry) → Except IoFault (List Path)
  | 0, _, _, _, _ => .error walkFault
  | links + 1, stack, place, shown, entries =>
    tree.walkEntries (tree.enter links) stack place shown entries

/-- The files below a directory; a file is the only one below itself. -/
def walk (tree : FileTree) (p : Path) : Except IoFault (List Path) :=
  match tree.resolve p with
  | .ok (place, entry) =>
    tree.walkEntry (tree.enter (Entry.directoryCountOf tree.entries + 1)) [] place p entry
  | .error fault => .error fault

end RunPlan.FileTree
