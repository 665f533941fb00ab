import RunPlan.Toml.Basic
import RunPlan.OrderedMap

/-!
The tables of a document while it is read. A table that only a longer name has mentioned may still
be opened by a header, one that dotted keys have made may not, and nothing is defined twice.
-/

set_option autoImplicit false

namespace RunPlan.Toml

/-- How a table came about: by a header or braces, by the name of a table below it, or by dotted
keys. -/
inductive Origin
  | declared
  | mentioned
  | dotted
  deriving DecidableEq, Repr

/-- What stands under a key. -/
inductive Item
  | value (v : Toml)
  | table (origin : Origin) (entries : List (String × Item))
  | tables (all : List (List (String × Item)))
  deriving Repr, Inhabited

abbrev Entries := List (String × Item)

mutual

def Item.toValue : Item → Toml
  | .value v => v
  | .table _ entries => .table (valuesOf entries)
  | .tables all => .array (valuesOfAll all)

def valuesOf : Entries → List (String × Toml)
  | [] => []
  | (k, v) :: es => (k, v.toValue) :: valuesOf es

private def valuesOfAll : List Entries → List Toml
  | [] => []
  | t :: ts => .table (valuesOf t) :: valuesOfAll ts

end

namespace Entries

def find? (es : Entries) (k : String) : Option Item := RunPlan.Entries.find? es k

/-- Changes the table that a path leads to; missing ones come about as `origin` says. Dotted keys
do not lead into tables that were declared. -/
def within (origin : Origin) (change : Origin → Entries → Option Entries) :
    List String → Origin → Entries → Option Entries
  | [], own, es => change own es
  | k :: path, _, es =>
    match find? es k with
    | none => (within origin change path origin []).map fun inner =>
      es ++ [(k, .table origin inner)]
    | some (.value _) => none
    | some (.tables all) =>
      match all.getLast? with
      | none => none
      | some last => (within origin change path .declared last).map fun inner =>
        RunPlan.Entries.put es k (.tables (all.dropLast ++ [inner]))
    | some (.table own inner) =>
      if origin = .dotted && own = .declared then none
      else (within origin change path own inner).map fun inner =>
        RunPlan.Entries.put es k (.table own inner)

def add (k : String) (item : Item) (es : Entries) : Option Entries :=
  match find? es k with
  | none => some (es ++ [(k, item)])
  | some _ => none

/-- Sets a dotted key. The table that its last part stands in must be one of dotted keys, and not
some other table. -/
def set (path : List String) (key : String) (value : Toml) (es : Entries) : Option Entries :=
  within .dotted
    (fun own inner => if !path.isEmpty && own ≠ .dotted then none else add key (.value value) inner)
    path .declared es

end Entries

/-- What is read: all tables closed so far, and the open one with its name. -/
structure Reading where
  root : Entries
  path : List String
  isItem : Bool
  current : Entries

namespace Reading

def start : Reading := ⟨[], [], false, []⟩

def close (r : Reading) : Option Entries :=
  match r.path.getLast? with
  | none => some r.current
  | some key =>
    Entries.within .mentioned
      (fun _ es =>
        match Entries.find? es key, r.isItem with
        | none, true => some (es ++ [(key, .tables [r.current])])
        | some (.tables all), true =>
          some (RunPlan.Entries.put es key (.tables (all ++ [r.current])))
        | none, false => some (es ++ [(key, .table .declared r.current)])
        | _, _ => none)
      r.path.dropLast .declared r.root

/-- Opens a table by its header. What its sub-tables have said already stays in it. -/
def openTable (r : Reading) (path : List String) : Option Reading := do
  let root ← r.close
  let key ← path.getLast?
  let mut found : Entries := []
  let parent ← Entries.within .mentioned (fun _ es => some es) path.dropLast .declared root
  match itemAt? path.dropLast key parent with
  | none => return ⟨parent, path, false, found⟩
  | some (.table .mentioned entries) =>
    found := entries
    let root ← Entries.within .mentioned (fun _ es => some (RunPlan.Entries.drop es key))
      path.dropLast .declared parent
    return ⟨root, path, false, found⟩
  | some _ => none
where
  /-- The item under a key of the table that a path leads to. -/
  itemAt? : List String → String → Entries → Option Item
    | [], key, es => Entries.find? es key
    | k :: path, key, es =>
      match Entries.find? es k with
      | some (.table _ inner) => itemAt? path key inner
      | some (.tables all) => all.getLast?.bind (itemAt? path key)
      | _ => none

def openItem (r : Reading) (path : List String) : Option Reading := do
  let root ← r.close
  let key ← path.getLast?
  let root ← Entries.within .mentioned
    (fun _ es =>
      match Entries.find? es key with
      | none | some (.tables _) => some es
      | some _ => none)
    path.dropLast .declared root
  return ⟨root, path, true, []⟩

def set (r : Reading) (path : List String) (key : String) (value : Toml) : Option Reading :=
  (r.current.set path key value).map fun current => { r with current }

end Reading

end RunPlan.Toml
