import RunPlan.Loader
import RunPlan.Proofs.LoadRun
import RunPlan.Proofs.Outcome

/-!
What the files of a load expand to, free of traces. Main statements: a load that nobody cancels
finds its files, reads the wanted ones in order, sorts their benchmarks by name, and leaves nothing
behind but messages.
-/

set_option autoImplicit false

namespace RunPlan.Loader

open RunPlan.Load

variable (l : Loader) (tree : FileTree) (sequenceId : String)

def discovery : Except LoadError Discovery := do
  let directory ← l.reader.resolve tree l.config.benchmarksDir
  let files ← Reader.glob tree directory filePattern
  return ⟨directory, files⟩

def nameOf (directory file : Resource) : String := benchmarkName directory.path file.path

def wanted (directory : Resource) (files : List Resource) : List Resource :=
  files.filter fun file => l.config.isActive (nameOf directory file)

def blocks (directory : Resource) (files : List Resource) :
    Except LoadError (List (List Benchmark)) :=
  (l.wanted directory files).mapM fun file =>
    l.loadFile tree (nameOf directory file) sequenceId file

/-- The benchmarks of all wanted files, in the natural order of their names. -/
def expansion (d : Discovery) : Except LoadError (List Benchmark) :=
  (l.blocks tree sequenceId d.directory d.files).map fun bss =>
    NaturalOrder.sortBy Benchmark.name bss.flatten

def allBenchmarks : Except LoadError (List Benchmark) :=
  l.discovery tree >>= l.expansion tree sequenceId

theorem find_yields : (l.find tree).Yields (l.discovery tree) := by
  refine Yields.bind_ok (Yields.note _) ?_
  refine Yields.bind (Yields.lift _) fun directory _ => ?_
  refine Yields.bind (Yields.lift _) fun files _ => ?_
  exact Yields.bind_ok (Yields.forM _ (fun _ => Yields.note _) files) (Yields.pure _)

variable {l tree} in
theorem find_outcome_of_matching {directory : Resource} {files : List Resource}
    (hdirectory : (l.reader.resolve tree l.config.benchmarksDir).toOption = some directory)
    (hmatching : (Reader.matching tree directory filePattern).toOption =
      some (files.map Resource.path))
    (hlocations : files.map (fun file => Resource.mk file.path.text file.path) = files)
    (hsorted : (files.map Resource.path).Pairwise fun p q => (p.compare q != .gt) = true) :
    (l.find tree).outcome = .ok ⟨directory, files⟩ := by
  have hglob : Reader.glob tree directory filePattern = .ok files := by
    rw [Reader.glob, eq_ok_of_toOption hmatching]
    show Except.ok (List.map _ (List.mergeSort _ _)) = _
    rw [List.mergeSort_of_pairwise hsorted, List.map_map]
    exact congrArg _ hlocations
  rw [(find_yields l tree).outcome_eq]
  exact bind_eq_ok_iff.mpr
    ⟨_, eq_ok_of_toOption hdirectory, bind_eq_ok_iff.mpr ⟨_, hglob, rfl⟩⟩

private theorem blocks_cons_of_idle {directory file : Resource} (files : List Resource)
    (h : l.config.isActive (nameOf directory file) = false) :
    l.blocks tree sequenceId directory (file :: files) =
      l.blocks tree sequenceId directory files := by
  simp only [blocks, wanted, List.filter_cons, h, Bool.false_eq_true, if_false]

private theorem blocks_cons_of_active {directory file : Resource} (files : List Resource)
    (h : l.config.isActive (nameOf directory file) = true) :
    l.blocks tree sequenceId directory (file :: files) = do
      let first ← l.loadFile tree (nameOf directory file) sequenceId file
      let rest ← l.blocks tree sequenceId directory files
      return first :: rest := by
  simp only [blocks, wanted, List.filter_cons, h, if_true, List.mapM_cons]

private theorem map_flatten_cons (x : Except LoadError (List Benchmark))
    (y : Except LoadError (List (List Benchmark))) :
    (do
      let first ← x
      let rest ← y
      return first :: rest : Except LoadError (List (List Benchmark))).map List.flatten =
    do
      let first ← x
      let rest ← y.map List.flatten
      return first ++ rest := by
  cases x with
  | error e => rfl
  | ok first => cases y <;> rfl

private theorem loadFiles_yields (directory : Resource) (files : List Resource) :
    (l.loadFiles tree sequenceId directory files).Yields
      ((l.blocks tree sequenceId directory files).map List.flatten) := by
  induction files with
  | nil => exact Yields.pure []
  | cons file files ih =>
    rw [loadFiles]
    cases hactive : l.config.isActive (nameOf directory file) with
    | false =>
      rw [blocks_cons_of_idle l tree sequenceId files hactive]
      rw [nameOf] at hactive
      simpa only [hactive, Bool.not_false, if_true] using ih
    | true =>
      rw [blocks_cons_of_active l tree sequenceId files hactive, map_flatten_cons]
      rw [nameOf] at hactive
      simp only [hactive, Bool.not_true, Bool.false_eq_true, if_false]
      refine Yields.bind_ok Yields.checkCancelled (Yields.bind_ok (Yields.note _) ?_)
      exact Yields.bind (Yields.lift _) fun first _ => Yields.bind ih fun rest _ => Yields.pure _

private theorem expansion_eq_bind (d : Discovery) :
    l.expansion tree sequenceId d = do
      let bs ← (l.blocks tree sequenceId d.directory d.files).map List.flatten
      return NaturalOrder.sortBy Benchmark.name bs := by
  rw [expansion]
  cases l.blocks tree sequenceId d.directory d.files <;> rfl

theorem expand_yields (d : Discovery) :
    (l.expand tree sequenceId d).Yields (l.expansion tree sequenceId d) := by
  rw [expansion_eq_bind]
  exact Yields.bind (loadFiles_yields l tree sequenceId d.directory d.files) fun bs _ =>
    Yields.bind_ok Yields.checkCancelled (Yields.pure _)

theorem loadAll_yields :
    (l.loadAll tree sequenceId).Yields (l.allBenchmarks tree sequenceId) :=
  Yields.bind (find_yields l tree) fun d _ => expand_yields l tree sequenceId d

end RunPlan.Loader

namespace RunPlan.Sample

def tenth : Resource := ⟨"/b/t10.yaml", ⟨"/b/t10.yaml"⟩⟩

def ninth : Resource := ⟨"/b/t9.yaml", ⟨"/b/t9.yaml"⟩⟩

def directory : Resource := ⟨"/b", ⟨"/b"⟩⟩

def tree : FileTree :=
  ⟨[("b", .directory
    [("t10.yaml", .file (some
      "data-source: d\nquery-names: q\nfrequency: 2\nvariables:\n  g:\n    n: 1, 2\n")),
    ("t9.yaml", .file (some "data-source: d\nquery-names: q, r\nn: 1\n"))])], []⟩

def queries : QuerySource := fun _ names => .ok (names.map fun name => ⟨name, "select 1", ∅⟩)

def patterns : PatternReader := fun pattern => .ok (· == pattern)

/-- A service that names every benchmark and answers without any age. -/
def ageless : Service where
  uniqueNames requests := Service.respond (requests.map Service.offlineName)
  executionAges _ := Service.respond []

/-- A loader of the sample files over a service, for the benchmarks where `n` is 1. -/
def loader (service : Service) : Loader :=
  ⟨{ benchmarksDir := "/b", activeVariables? := some "n=1" }, service, queries, patterns⟩

theorem exists_discovery : ∃ files, (loader .offline).discovery tree = .ok ⟨directory, files⟩ ∧
    ∀ file ∈ files, file ∈ [tenth, ninth] := by
  have hdirectory : (loader .offline).reader.resolve tree "/b" = .ok directory :=
    eq_ok_of_toOption (by decide +kernel)
  have hmatching : Reader.matching tree directory Loader.filePattern =
      .ok [tenth.path, ninth.path] :=
    eq_ok_of_toOption (by decide +kernel)
  have hglob : Reader.glob tree directory Loader.filePattern =
      .ok (([tenth.path, ninth.path].mergeSort fun p q => p.compare q != .gt).map
        fun path => ⟨path.text, path⟩) := by
    rw [Reader.glob, hmatching]
    rfl
  refine ⟨_, bind_eq_ok_iff.mpr ⟨_, hdirectory, bind_eq_ok_iff.mpr ⟨_, hglob, rfl⟩⟩, ?_⟩
  intro file hfile
  obtain ⟨path, hpath, rfl⟩ := List.mem_map.mp hfile
  rw [List.mem_mergeSort, List.mem_pair] at hpath
  rcases hpath with rfl | rfl
  · exact List.mem_cons_self
  · exact List.mem_cons_of_mem _ List.mem_cons_self

theorem exists_benchmarksIn : ∀ file ∈ [tenth, ninth], ∃ bs, (loader .offline).benchmarksIn tree
    (Loader.nameOf directory file) "seq" file = .ok bs := by
  have hsome : ∀ file ∈ [tenth, ninth], ((loader .offline).benchmarksIn tree
      (Loader.nameOf directory file) "seq" file).toOption.isSome = true := by
    decide +kernel
  exact fun file hfile => exists_eq_ok_of_isSome (hsome file hfile)

end RunPlan.Sample
