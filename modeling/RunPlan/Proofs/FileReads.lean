import RunPlan.Loader
import RunPlan.Proofs.Definition.Inheritance
import RunPlan.Proofs.FileTree.Shape

/-!
What the benchmarks of a file are read from: the chain of its base files, and the query files that
its descriptors name. Main statement: in trees of the same shape a file gives the same benchmarks if
those have the same texts.
-/

set_option autoImplicit false

namespace RunPlan

/-- The places of the files that a benchmark file is made from, itself among them. -/
inductive Reaches (reader : Reader) (queryDirectory : String) (tree : FileTree) (file : Resource) :
    Place → Prop
  | inherited {links : List Definition.Link} {last : Resource} {place : Place} {entry : Entry}
      (hchain : Definition.Chain tree file links last)
      (hplace : tree.resolve last.path = .ok (place, entry)) :
      Reaches reader queryDirectory tree file place
  | query {definition : Yaml.Mapping} {ds : List Descriptor} {d : Descriptor} {name : String}
      {found : Resource} {place : Place} {entry : Entry}
      (hload : Definition.load tree file = .ok definition)
      (hds : Definition.descriptors definition = .ok ds) (hd : d ∈ ds) (hname : name ∈ d.queryNames)
      (hfound : reader.resolve tree (QuerySource.locationOf queryDirectory name) = .ok found)
      (hplace : tree.resolve found.path = .ok (place, entry)) :
      Reaches reader queryDirectory tree file place

theorem exists_entry_of_reaches {reader : Reader} {queryDirectory : String} {tree : FileTree}
    {file : Resource} {place : Place} {e : LoadError}
    (hread : Definition.readFile tree file = .error e)
    (h : Reaches reader queryDirectory tree file place) :
    ∃ entry, tree.resolve file.path = .ok (place, entry) := by
  cases h with
  | inherited hchain hplace =>
    cases hchain with
    | here => exact ⟨_, hplace⟩
    | base hlink =>
      rw [hlink.read] at hread
      cases hread
  | query hload =>
    have hfails : Definition.load tree file = .error e :=
      Definition.load_eq_of_inherits (.failed (.here file) List.nodup_nil
        (fun _ _ _ => List.not_mem_nil) (Definition.fails_of_readFile hread))
    rw [hload] at hfails
    cases hfails

private theorem Definition.exists_of_base?_eq_some {file next : Resource}
    {definition : Yaml.Mapping}
    (h : base? file definition = .ok (some next)) : ∃ relative,
      definition.getText? Key.base = some (.string relative) ∧ next = file.sibling relative := by
  rw [base?] at h
  split at h
  · cases h
  · rename_i relative hrelative
    cases h
    exact ⟨relative, hrelative, rfl⟩
  · cases h

section SameShape

variable {tree tree' : FileTree} (h : tree.SameShape tree')

include h

theorem Reader.resolve_eq (reader : Reader) (location : String) :
    reader.resolve tree location = reader.resolve tree' location := by
  have hexists : tree.exists? = tree'.exists? := funext h.exists?_eq
  have hfind : reader.find? tree = reader.find? tree' := by
    funext location
    cases location with
    | classpath relative => rw [Reader.find?, Reader.find?, hexists]
    | file path => rw [Reader.find?, Reader.find?, hexists]
    | undecodable shown => rfl
  rw [Reader.resolve, Reader.resolve, hfind]

theorem Reader.glob_eq (base : Resource) (pattern : String) :
    Reader.glob tree base pattern = Reader.glob tree' base pattern := by
  rw [Reader.glob, Reader.glob, Reader.matching, Reader.matching, h.walk_eq]

theorem Resource.readText_eq {file : Resource}
    (htext : ∀ place entry, tree.resolve file.path = .ok (place, entry) →
      tree.textAt? place = tree'.textAt? place) : file.readText tree = file.readText tree' := by
  rw [Resource.readText, Resource.readText, h.readText_eq htext]

namespace Definition

theorem readFile_eq {file : Resource}
    (htext : ∀ place entry, tree.resolve file.path = .ok (place, entry) →
      tree.textAt? place = tree'.textAt? place) : readFile tree file = readFile tree' file := by
  rw [readFile, readFile, Resource.readText_eq h htext]

/-- Following a chain gives the same where its files have the same texts. -/
theorem loadFrom_eq (fuel : Nat) (visited : List Place) (file : Resource)
    (htext : ∀ links last place entry, Chain tree file links last →
      tree.resolve last.path = .ok (place, entry) → tree.textAt? place = tree'.textAt? place) :
    loadFrom tree fuel visited file = loadFrom tree' fuel visited file := by
  induction fuel generalizing visited file with
  | zero => rfl
  | succ fuel ih =>
    have hfile := fun place entry => htext [] file place entry (.here file)
    rcases h.resolve_cases file.path with
      ⟨fault, hplace, hplace'⟩ | ⟨place, e, e', hplace, hplace', -⟩
    · rw [loadFrom, loadFrom, hplace, hplace']
      rfl
    · by_cases hagain : place ∈ visited
      · rw [loadFrom_of_mem hplace hagain, loadFrom_of_mem hplace' hagain]
      rw [loadFrom_of_notMem hplace hagain, loadFrom_of_notMem hplace' hagain,
        ← readFile_eq h hfile]
      cases hread : readFile tree file with
      | error fault => rfl
      | ok definition =>
        show (base? file definition >>= _) = (base? file definition >>= _)
        cases hbase : base? file definition with
        | error fault => rfl
        | ok next? =>
          cases next? with
          | none => rfl
          | some next =>
            have hnext : loadFrom tree fuel (place :: visited) next =
                loadFrom tree' fuel (place :: visited) next := by
              obtain ⟨relative, hrelative, rfl⟩ := exists_of_base?_eq_some hbase
              have hlink : Link.Holds tree ⟨file, place, definition⟩ := ⟨⟨e, hplace⟩, hread⟩
              exact ih _ _ fun links last place entry hchain =>
                htext _ last place entry (.base hlink hrelative hchain)
            show (loadFrom tree fuel (place :: visited) next >>= _) =
              (loadFrom tree' fuel (place :: visited) next >>= _)
            rw [hnext]

private theorem load_eq {file : Resource}
    (htext : ∀ links last place entry, Chain tree file links last →
      tree.resolve last.path = .ok (place, entry) → tree.textAt? place = tree'.textAt? place) :
    load tree file = load tree' file := by
  rw [load, load, loadFrom_eq h _ _ _ htext, h.countOf_eq]

end Definition

private theorem QuerySource.query_eq {reader : Reader} {directory name : String}
    (htext : ∀ found place entry,
      reader.resolve tree (locationOf directory name) = .ok found →
      tree.resolve found.path = .ok (place, entry) → tree.textAt? place = tree'.textAt? place) :
    query reader directory tree name = query reader directory tree' name := by
  rw [query, query, ← Reader.resolve_eq h]
  cases hfound : reader.resolve tree (locationOf directory name) with
  | error e => rfl
  | ok found =>
    have hread : found.readText tree = found.readText tree' :=
      Resource.readText_eq h fun place entry => htext found place entry hfound
    show (found.readText tree >>= _) = (found.readText tree' >>= _)
    rw [hread]

theorem Loader.benchmarksIn_eq {l : Loader} {reader : Reader} {directory : String}
    (hqueries : l.queries = QuerySource.ofDirectory reader directory) {file : Resource}
    (htext : ∀ place, Reaches reader directory tree file place →
      tree.textAt? place = tree'.textAt? place) (name sequenceId : String) :
    l.benchmarksIn tree name sequenceId file = l.benchmarksIn tree' name sequenceId file := by
  have hload : Definition.load tree file = Definition.load tree' file :=
    Definition.load_eq h fun _ _ place _ hchain hplace => htext place (.inherited hchain hplace)
  rw [benchmarksIn, benchmarksIn, ← hload]
  cases hdefinition : Definition.load tree file with
  | error e => rfl
  | ok definition =>
    show (Definition.descriptors definition >>= _) = (Definition.descriptors definition >>= _)
    cases hds : Definition.descriptors definition with
    | error e => rfl
    | ok ds =>
      refine mapM_congr_of_mem fun d hd => ?_
      have hquery : l.queries tree d.queryNames = l.queries tree' d.queryNames := by
        rw [hqueries, QuerySource.ofDirectory]
        exact mapM_congr_of_mem fun name hname => QuerySource.query_eq h
          fun found place _ hfound hplace =>
            htext place (.query hdefinition hds hd hname hfound hplace)
      rw [hquery]

end SameShape

end RunPlan
