import RunPlan.Toml.Scalar
import RunPlan.Toml.Table

/-!
Reading TOML documents.
-/

set_option autoImplicit false

namespace RunPlan.Toml

open RunPlan.Text

def maxDepth : Nat := 80

def isKeyChar (c : Char) : Bool := c.isAlphanum || c = '_' || c = '-'

def readKeyPart (s : List Char) : Option (String × List Char) :=
  match s with
  | '"' :: r => readLine '"' (r.length + 1) [] r
  | '\'' :: r => readLine '\'' (r.length + 1) [] r
  | s =>
    let name := s.takeWhile isKeyChar
    if name.isEmpty then none else some (String.ofList name, s.drop name.length)

/-- Reads a key of one or more parts, with white space around them. -/
def readKey : Nat → List Char → Option (List String × List Char)
  | 0, _ => none
  | fuel + 1, s => do
    let (part, r) ← readKeyPart (skipBlank s)
    match skipBlank r with
    | '.' :: r => (readKey fuel r).map fun (parts, r) => (part :: parts, r)
    | r => return ([part], r)

/-- Reads a key up to its value: the parts in front of the last, the last, and the rest. -/
def readAssigned (s : List Char) : Option (List String × String × List Char) := do
  let (parts, r) ← readKey (s.length + 1) s
  let last ← parts.getLast?
  return (parts.dropLast, last, skipBlank (← behind? '=' r))

/-- Skips a comment, if one stands here; none if it holds what no text may hold. -/
private def skipComment (s : List Char) : Option (List Char) :=
  match s with
  | '#' :: r =>
    let rest := r.dropWhile isPlain
    if rest.isEmpty || (lineEnd? rest).isSome then some rest else none
  | s => some s

def skipLines : Nat → List Char → Option (List Char)
  | 0, _ => none
  | fuel + 1, s => do
    let s ← skipComment (skipBlank s)
    match lineEnd? s with
    | some r => skipLines fuel r
    | none => return s

mutual

/-- Reads a value, in which collections are nested at most so deep. -/
def readValue : Nat → Nat → List Char → Option (Toml × List Char)
  | 0, _, _ => none
  | _, 0, _ => none
  | fuel + 1, depth + 1, s =>
    match s with
    | '"' :: _ => (readString '"' s).map fun (t, r) => (.string t, r)
    | '\'' :: _ => (readString '\'' s).map fun (t, r) => (.string t, r)
    | '[' :: r => (readItems fuel depth r).map fun (items, r) => (.array items, r)
    | '\x7b' :: r =>
      match skipBlank r with
      | '\x7d' :: r => some (.table [], r)
      | r => do
        let (entries, r) ← readEntries fuel depth [] r
        return (.table (valuesOf entries), r)
    | s => readScalar s

def readItems : Nat → Nat → List Char → Option (List Toml × List Char)
  | 0, _, _ => none
  | fuel + 1, depth, s => do
    let s ← skipLines (s.length + 1) s
    match s with
    | ']' :: r => return ([], r)
    | s => do
      let (item, r) ← readValue fuel depth s
      let r ← skipLines (r.length + 1) r
      match r with
      | ',' :: r => (readItems fuel depth r).map fun (items, r) => (item :: items, r)
      | ']' :: r => return ([item], r)
      | _ => none

def readEntries : Nat → Nat → Entries → List Char → Option (Entries × List Char)
  | 0, _, _, _ => none
  | fuel + 1, depth, done, s => do
    let (path, key, r) ← readAssigned s
    let (value, r) ← readValue fuel depth r
    let done ← done.set path key value
    match skipBlank r with
    | ',' :: r => readEntries fuel depth done r
    | '\x7d' :: r => return (done, r)
    | _ => none

end

def readLineEnd (s : List Char) : Option (List Char) := do
  match ← skipComment (skipBlank s) with
  | [] => return []
  | s => lineEnd? s

def readDocument : Nat → Reading → List Char → Option Entries
  | 0, _, _ => none
  | fuel + 1, reading, s =>
    match skipBlank s with
    | [] => reading.close
    | '#' :: r => do
      let r ← readLineEnd ('#' :: r)
      readDocument fuel reading r
    | '[' :: '[' :: r => do
      let (path, r) ← readKey (r.length + 1) r
      let r ← behind? ']' (← behind? ']' r)
      let r ← readLineEnd r
      readDocument fuel (← reading.openItem path) r
    | '[' :: r => do
      let (path, r) ← readKey (r.length + 1) r
      let r ← readLineEnd (← behind? ']' r)
      readDocument fuel (← reading.openTable path) r
    | s =>
      match lineEnd? s with
      | some r => readDocument fuel reading r
      | none => do
        let (path, key, r) ← readAssigned s
        let (value, r) ← readValue (r.length + 1) maxDepth r
        let r ← readLineEnd r
        readDocument fuel (← reading.set path key value) r

/-- The entries of a document. A byte order mark in front does not count. -/
def parse? (text : String) : Option (List (String × Toml)) :=
  let s := match text.toList with
    | c :: r => if c = '\uFEFF' then r else c :: r
    | [] => []
  (readDocument (s.length + 1) .start s).map valuesOf

end RunPlan.Toml
