import RunPlan.Definition.Inheritance
import RunPlan.Proofs.FileTree.Places
import RunPlan.Proofs.Outcome
import Mathlib.Data.List.Nodup
import Mathlib.Data.List.Perm.Subperm

/-!
Chains of base files. Main statement: loading a file follows the chain of its base files, which ends
within as many files as the tree has places: at a place that comes again, at a file that fails, or
at one without a base, and only then there is a definition, merged from the last file up.
-/

set_option autoImplicit false

namespace RunPlan.Definition

open RunPlan.Yaml

/-- A file of a chain: where it stands and what it says. -/
structure Link where
  file : Resource
  place : Place
  definition : Mapping

/-- The file stands there and says that. -/
structure Link.Holds (tree : FileTree) (link : Link) : Prop where
  located : ∃ entry, tree.resolve link.file.path = .ok (link.place, entry)
  read : readFile tree link.file = .ok link.definition

/-- The files from the first one up to the last, each the base of the one before. Of the last one
nothing is read. -/
inductive Chain (tree : FileTree) : Resource → List Link → Resource → Prop
  | here (file : Resource) : Chain tree file [] file
  | base {link : Link} {links : List Link} {last : Resource} {relative : String}
      (hlink : link.Holds tree)
      (hbase : link.definition.getText? Key.base = some (.string relative))
      (hrest : Chain tree (link.file.sibling relative) links last) :
      Chain tree link.file (link :: links) last

/-- The error of a file by itself: it cannot be read, its text is no definition, or the base that
it names is no text. -/
inductive Fails (tree : FileTree) (file : Resource) : LoadError → Prop
  | unreadable {fault : IoFault} (h : tree.readText file.path = .error fault) :
      Fails tree file (.readFailure file.path fault)
  | malformed {text : String} {fault : DefinitionFault} (hread : tree.readText file.path = .ok text)
      (h : parse text = .error fault) : Fails tree file (.parseFailure fault)
  | badBase {definition : Mapping} {value : Value} (hread : readFile tree file = .ok definition)
      (h : definition.getText? Key.base = some value) (hvalue : ∀ text, value ≠ .string text) :
      Fails tree file (.baseNotAString file.path)

/-- What the files of a chain say, without their own base, above what the last one says. -/
def inherit (links : List Link) (last : Mapping) : Mapping :=
  links.foldr (fun link parent => merge (link.definition.erase (.string Key.base)) parent) last

/-- How the chain of base files of a file ends, and what comes of it. -/
inductive Inherits (tree : FileTree) (file : Resource) : Except LoadError Mapping → Prop
  | cyclic {links : List Link} {last : Resource} {place : Place} {entry : Entry}
      (hchain : Chain tree file links last) (hdistinct : (links.map Link.place).Nodup)
      (hlast : tree.resolve last.path = .ok (place, entry))
      (hagain : place ∈ links.map Link.place) :
      Inherits tree file (.error (.parseFailure (.cyclicBase last.path)))
  | failed {links : List Link} {last : Resource} {e : LoadError}
      (hchain : Chain tree file links last) (hdistinct : (links.map Link.place).Nodup)
      (hfresh : ∀ place entry, tree.resolve last.path = .ok (place, entry) →
        place ∉ links.map Link.place)
      (hfails : Fails tree last e) : Inherits tree file (.error e)
  | merged {links : List Link} {last : Link} (hchain : Chain tree file links last.file)
      (hdistinct : ((links ++ [last]).map Link.place).Nodup) (hlast : last.Holds tree)
      (hbase : last.definition.getText? Key.base = none) :
      Inherits tree file (.ok (inherit links last.definition))

section Keys

variable {key : Value} {child parent : Mapping}

end Keys

section Chains

variable {tree : FileTree} {file last : Resource} {links : List Link}

private theorem Chain.places_subset (h : Chain tree file links last) :
    links.map Link.place ⊆ tree.places := by
  induction h with
  | here file => exact List.nil_subset _
  | base hlink _ _ ih =>
    obtain ⟨entry, hentry⟩ := hlink.located
    rw [List.map_cons]
    exact List.cons_subset.mpr ⟨FileTree.mem_places_of_resolve hentry, ih⟩

theorem Chain.length_le (h : Chain tree file links last)
    (hdistinct : (links.map Link.place).Nodup) :
    links.length ≤ Entry.countOf tree.entries + 1 := by
  have hle := (List.subperm_of_subset hdistinct h.places_subset).length_le
  rwa [List.length_map, FileTree.length_places] at hle

end Chains

section Steps

variable {tree : FileTree} {file : Resource} {visited : List Place} {fuel : Nat}

theorem loadFrom_of_mem {place : Place} {entry : Entry}
    (hplace : tree.resolve file.path = .ok (place, entry)) (h : place ∈ visited) :
    loadFrom tree (fuel + 1) visited file = .error (.parseFailure (.cyclicBase file.path)) := by
  have hcontains : visited.contains place = true := List.contains_iff_mem.mpr h
  rw [loadFrom, hplace]
  show (if visited.contains place = true then _ else _) = _
  rw [if_pos hcontains]
  rfl

theorem loadFrom_of_notMem {place : Place} {entry : Entry}
    (hplace : tree.resolve file.path = .ok (place, entry)) (h : place ∉ visited) :
    loadFrom tree (fuel + 1) visited file = do
      let definition ← readFile tree file
      match ← base? file definition with
      | none => return definition
      | some base =>
        let parent ← loadFrom tree fuel (place :: visited) base
        return merge (definition.erase (.string Key.base)) parent := by
  have hcontains : ¬ visited.contains place = true := fun hmem =>
    h (List.contains_iff_mem.mp hmem)
  rw [loadFrom, hplace]
  exact if_neg hcontains

private theorem readFile_eq_error_of_readText {fault : IoFault}
    (h : tree.readText file.path = .error fault) :
    readFile tree file = .error (.readFailure file.path fault) := by
  rw [readFile, Resource.readText, h]
  rfl

theorem fails_of_readFile {e : LoadError} (h : readFile tree file = .error e) :
    Fails tree file e := by
  cases htext : tree.readText file.path with
  | error fault =>
    rw [readFile_eq_error_of_readText htext] at h
    cases h
    exact .unreadable htext
  | ok text =>
    rw [readFile, Resource.readText, htext] at h
    have hparsed : (parse text).mapError LoadError.parseFailure = .error e := h
    cases hparse : parse text with
    | error fault =>
      rw [hparse] at hparsed
      cases hparsed
      exact .malformed htext hparse
    | ok definition =>
      rw [hparse] at hparsed
      cases hparsed

private theorem readText_eq_error_of_resolve {fault : IoFault}
    (h : tree.resolve file.path = .error fault) : tree.readText file.path = .error fault := by
  rw [FileTree.readText, h]

private theorem loadFrom_of_fails {e : LoadError}
    (hfresh : ∀ place entry, tree.resolve file.path = .ok (place, entry) → place ∉ visited)
    (h : Fails tree file e) : loadFrom tree (fuel + 1) visited file = .error e := by
  cases hplace : tree.resolve file.path with
  | error fault =>
    have hread := readText_eq_error_of_resolve hplace
    rw [loadFrom, hplace]
    cases h with
    | unreadable hfault =>
      rw [hread] at hfault
      cases hfault
      rfl
    | malformed htext =>
      rw [hread] at htext
      cases htext
    | badBase hdefinition =>
      rw [readFile_eq_error_of_readText hread] at hdefinition
      cases hdefinition
  | ok found =>
    obtain ⟨place, entry⟩ := found
    rw [loadFrom_of_notMem hplace (hfresh place entry hplace)]
    cases h with
    | unreadable hfault =>
      rw [readFile_eq_error_of_readText hfault]
      rfl
    | malformed htext hfault =>
      rw [readFile, Resource.readText, htext]
      show ((parse _).mapError LoadError.parseFailure >>= _) = _
      rw [hfault]
      rfl
    | @badBase definition value hdefinition hbase hvalue =>
      have hbad : base? file definition = .error (.baseNotAString file.path) := by
        rw [base?, hbase]
        cases value with
        | string text => exact absurd rfl (hvalue text)
        | null | bool | number | sequence | mapping | tagged => rfl
      rw [hdefinition]
      show (base? file definition >>= _) = _
      rw [hbad]
      rfl

private theorem loadFrom_of_base {link : Link} {relative : String} (hlink : link.Holds tree)
    (hbase : link.definition.getText? Key.base = some (.string relative))
    (hfresh : link.place ∉ visited) :
    loadFrom tree (fuel + 1) visited link.file =
      (loadFrom tree fuel (link.place :: visited) (link.file.sibling relative)).map
        (merge (link.definition.erase (.string Key.base))) := by
  obtain ⟨entry, hentry⟩ := hlink.located
  have hsome : base? link.file link.definition = .ok (some (link.file.sibling relative)) := by
    rw [base?, hbase]
  rw [loadFrom_of_notMem hentry hfresh, hlink.read]
  show (base? link.file link.definition >>= _) = _
  rw [hsome]
  show (loadFrom tree fuel (link.place :: visited) (link.file.sibling relative) >>= _) = _
  cases loadFrom tree fuel (link.place :: visited) (link.file.sibling relative) <;> rfl

private theorem loadFrom_of_no_base {link : Link} (hlink : link.Holds tree)
    (hbase : link.definition.getText? Key.base = none) (hfresh : link.place ∉ visited) :
    loadFrom tree (fuel + 1) visited link.file = .ok link.definition := by
  obtain ⟨entry, hentry⟩ := hlink.located
  have hnone : base? link.file link.definition = .ok none := by rw [base?, hbase]
  rw [loadFrom_of_notMem hentry hfresh, hlink.read]
  show (base? link.file link.definition >>= _) = _
  rw [hnone]
  rfl

/-- Loading goes along a chain to its last file, with all places before that one visited. -/
theorem loadFrom_chain {last : Resource} {links : List Link} (h : Chain tree file links last)
    (hdistinct : (links.map Link.place ++ visited).Nodup) :
    loadFrom tree (links.length + fuel) visited file =
      (loadFrom tree fuel ((links.map Link.place).reverse ++ visited) last).map
        (inherit links) := by
  induction h generalizing visited with
  | here file =>
    rw [List.length_nil, Nat.zero_add, List.map_nil, List.reverse_nil, List.nil_append]
    cases loadFrom tree fuel visited file <;> rfl
  | @base link links last relative hlink hbase hrest ih =>
    rw [List.map_cons, List.cons_append] at hdistinct
    have hfresh := (List.nodup_cons.mp hdistinct).1
    rw [List.mem_append, not_or] at hfresh
    rw [List.length_cons, Nat.add_right_comm, loadFrom_of_base hlink hbase hfresh.2,
      ih (List.nodup_middle.mpr hdistinct), List.map_cons, List.reverse_cons, List.append_assoc]
    show Except.map _ (Except.map _ (loadFrom tree fuel
      ((links.map Link.place).reverse ++ ([link.place] ++ visited)) last)) = _
    cases loadFrom tree fuel ((links.map Link.place).reverse ++ ([link.place] ++ visited)) last <;>
      rfl

end Steps

section Endings

variable {tree : FileTree} {file : Resource}

private theorem load_chain {last : Resource} {links : List Link} (h : Chain tree file links last)
    (hdistinct : (links.map Link.place).Nodup) :
    ∃ fuel, load tree file =
      (loadFrom tree (fuel + 1) (links.map Link.place).reverse last).map (inherit links) := by
  have hle := h.length_le hdistinct
  refine ⟨Entry.countOf tree.entries + 1 - links.length, ?_⟩
  have hfuel : Entry.countOf tree.entries + 2 =
      links.length + (Entry.countOf tree.entries + 1 - links.length + 1) := by omega
  rw [load, hfuel, loadFrom_chain h (by rwa [List.append_nil]), List.append_nil]

theorem load_eq_of_inherits {result : Except LoadError Mapping} (h : Inherits tree file result) :
    load tree file = result := by
  cases h with
  | cyclic hchain hdistinct hlast hagain =>
    obtain ⟨fuel, hload⟩ := load_chain hchain hdistinct
    rw [hload, loadFrom_of_mem hlast (List.mem_reverse.mpr hagain)]
    rfl
  | failed hchain hdistinct hfresh hfails =>
    obtain ⟨fuel, hload⟩ := load_chain hchain hdistinct
    have hfresh' := fun place entry hlast hmem =>
      hfresh place entry hlast (List.mem_reverse.mp hmem)
    rw [hload, loadFrom_of_fails hfresh' hfails]
    rfl
  | merged hchain hdistinct hlast hbase =>
    rw [List.map_append, List.map_singleton, List.nodup_append] at hdistinct
    obtain ⟨hlinks, -, hfresh⟩ := hdistinct
    obtain ⟨fuel, hload⟩ := load_chain hchain hlinks
    have hfresh' := fun hmem =>
      hfresh _ (List.mem_reverse.mp hmem) _ (List.mem_singleton_self _) rfl
    rw [hload, loadFrom_of_no_base hlast hbase hfresh']
    rfl

end Endings

def Sample.child : Resource := ⟨"/suite/child.yaml", ⟨"/suite/child.yaml"⟩⟩

end RunPlan.Definition
