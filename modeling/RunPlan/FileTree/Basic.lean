import RunPlan.Path

/-!
A tree of files, directories and symbolic links, and the directory that relative paths start from.
A place is the list of names that lead from the root to an entry without any link between. Names are
texts here, and all that is there may be read.
-/

set_option autoImplicit false

namespace RunPlan

/-- An entry of a directory. Of a file only its text counts; bytes that are no text are none. A
socket stands for all that is no file, directory or link. -/
inductive Entry
  | file (text? : Option String)
  | socket
  | directory (entries : List (String × Entry))
  | link (target : String)
  deriving Repr, Inhabited

abbrev Place := List String

/-- All entries below the root, and the working directory. -/
structure FileTree where
  entries : List (String × Entry)
  workingDirectory : Place
  deriving Repr

/-- Why a path leads to nothing that can be used. -/
inductive IoFault
  | notFound
  | notDirectory
  | isDirectory
  | nameTooLong
  | tooManyLinks
  | invalidText
  | nulByte
  | noDevice
  | unwalkable (detail : String)
  deriving DecidableEq, Repr

def IoFault.message : IoFault → String
  | .notFound => "No such file or directory (os error 2)"
  | .notDirectory => "Not a directory (os error 20)"
  | .isDirectory => "Is a directory (os error 21)"
  | .nameTooLong => "File name too long (os error 36)"
  | .tooManyLinks => "Too many levels of symbolic links (os error 40)"
  | .invalidText => "stream did not contain valid UTF-8"
  | .nulByte => "file name contained an unexpected NUL byte"
  | .noDevice => "No such device or address (os error 6)"
  | .unwalkable detail => detail

namespace Entry

def find? (entries : List (String × Entry)) : Place → Option Entry
  | [] => some (.directory entries)
  | name :: names =>
    match entries.lookup name with
    | some (.directory entries) => find? entries names
    | some e => if names.isEmpty then some e else none
    | none => none

mutual

def directoryCount : Entry → Nat
  | .directory entries => 1 + directoryCountOf entries
  | _ => 0

def directoryCountOf : List (String × Entry) → Nat
  | [] => 0
  | (_, e) :: es => directoryCount e + directoryCountOf es

end

mutual

def count : Entry → Nat
  | .directory entries => 1 + countOf entries
  | _ => 1

def countOf : List (String × Entry) → Nat
  | [] => 0
  | (_, e) :: es => count e + countOf es

end

end Entry

namespace FileTree

def at? (tree : FileTree) (place : Place) : Option Entry := Entry.find? tree.entries place

end FileTree

end RunPlan
