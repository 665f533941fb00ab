import RunPlan.Proofs.FileExpansion
import RunPlan.Proofs.FileReads
import RunPlan.Proofs.PathOrder
import RunPlan.Proofs.RootCause

/-!
Loads that fail. Main statement: of the wanted files, in the order of their paths, the first one
that fails on its own ends the load with its error, under its location; and texts that no wanted
file reaches do not matter.
-/

set_option autoImplicit false

namespace RunPlan.Loader

open RunPlan.Load

variable (l : Loader) (tree : FileTree) (sequenceId : String)

def alone (directory file : Resource) : Except LoadError (List Benchmark) :=
  l.benchmarksIn tree (nameOf directory file) sequenceId file

/-- The files fail if a wanted one does, and then with the error of the first such one, told with
its location. -/
structure FailsAtFirst (d : Discovery) (result : Except LoadError (List Benchmark)) : Prop where
  fails : (∃ e, result = .error e) ↔ ∃ file ∈ d.files,
    l.config.isActive (nameOf d.directory file) = true ∧
      ∃ cause, l.alone tree sequenceId d.directory file = .error cause
  first : ∀ e, result = .error e ↔ ∃ before file after cause,
    d.files = before ++ file :: after ∧
    (∀ other ∈ before, l.config.isActive (nameOf d.directory other) = true →
      ∃ bs, l.alone tree sequenceId d.directory other = .ok bs) ∧
    l.config.isActive (nameOf d.directory file) = true ∧
    l.alone tree sequenceId d.directory file = .error cause ∧ e = .inFile file.location cause

private theorem loadFile_eq_error_iff {directory file : Resource} {e : LoadError} :
    l.loadFile tree (nameOf directory file) sequenceId file = .error e ↔
      ∃ cause, l.alone tree sequenceId directory file = .error cause ∧
        e = .inFile file.location cause := by
  rw [loadFile, mapError_eq_error_iff]
  exact exists_congr fun cause => and_congr_right fun _ => eq_comm

private theorem expansion_failsAtFirst (d : Discovery) :
    l.FailsAtFirst tree sequenceId d (l.expansion tree sequenceId d) where
  fails := by
    simp only [expansion, map_eq_error_iff, blocks, wanted]
    rw [mapM_filter_fails_iff]
    refine exists_congr fun file => and_congr_right fun _ => and_congr_right fun _ => ?_
    constructor
    · rintro ⟨e, he⟩
      obtain ⟨cause, hcause, -⟩ := (l.loadFile_eq_error_iff tree sequenceId).mp he
      exact ⟨cause, hcause⟩
    · rintro ⟨cause, hcause⟩
      exact ⟨_, (l.loadFile_eq_error_iff tree sequenceId).mpr ⟨cause, hcause, rfl⟩⟩
  first := by
    intro e
    rw [expansion, map_eq_error_iff, blocks, wanted, mapM_filter_eq_error_iff]
    refine exists_congr fun before => exists_congr fun file => exists_congr fun after => ?_
    rw [loadFile_eq_error_iff]
    constructor
    · rintro ⟨hsplit, hbefore, hactive, cause, hcause, he⟩
      refine ⟨cause, hsplit, fun other hother hwanted => ?_, hactive, hcause, he⟩
      obtain ⟨bs, hbs⟩ := hbefore other hother hwanted
      exact ⟨bs, mapError_eq_ok_iff.mp hbs⟩
    · rintro ⟨cause, hsplit, hbefore, hactive, hcause, he⟩
      refine ⟨hsplit, fun other hother hwanted => ?_, hactive, cause, hcause, he⟩
      obtain ⟨bs, hbs⟩ := hbefore other hother hwanted
      exact ⟨bs, mapError_eq_ok_iff.mpr hbs⟩

variable {l tree}

private theorem discovery_of_find {d : Discovery} (h : (l.find tree).outcome = .ok d) :
    l.discovery tree = .ok d := by
  rwa [(find_yields l tree).outcome_eq] at h

private theorem loadAll_outcome_of_find {d : Discovery} (h : (l.find tree).outcome = .ok d) :
    (l.loadAll tree sequenceId).outcome = l.expansion tree sequenceId d := by
  rw [(loadAll_yields l tree sequenceId).outcome_eq, allBenchmarks, discovery_of_find h]
  rfl

theorem exists_matching_of_find {d : Discovery} (h : (l.find tree).outcome = .ok d) :
    ∃ paths, Reader.matching tree d.directory filePattern = .ok paths ∧
      d.files = (paths.mergeSort fun p q => p.compare q != .gt).map fun path =>
        ⟨path.text, path⟩ := by
  obtain ⟨directory, -, h⟩ := bind_eq_ok_iff.mp (discovery_of_find h)
  obtain ⟨files, hglob, h⟩ := bind_eq_ok_iff.mp h
  cases h
  obtain ⟨paths, hpaths, h⟩ := bind_eq_ok_iff.mp hglob
  cases h
  exact ⟨paths, hpaths, rfl⟩

private theorem pairwise_of_find {directory : Resource} {files : List Resource}
    (h : (l.find tree).outcome = .ok ⟨directory, files⟩) :
    files.Pairwise fun f g => f.path.compare g.path ≠ .gt := by
  obtain ⟨paths, -, rfl⟩ := exists_matching_of_find h
  exact List.pairwise_map.mpr (Path.pairwise_mergeSort paths)

/-- With queries from a directory, the error of a load is one layer around its cause. -/
theorem exists_layer_of_error {reader : Reader} {queryDirectory : String}
    (hqueries : l.queries = .ofDirectory reader queryDirectory) {d : Discovery} {e : LoadError}
    (h : l.expansion tree sequenceId d = .error e) :
    ∃ location, e = .inFile location e.rootCause := by
  obtain ⟨-, file, -, cause, -, -, -, hcause, rfl⟩ :=
    ((expansion_failsAtFirst l tree sequenceId d).first e).mp h
  have hplain : ∀ tree names, Unlayered (l.queries tree names) := by
    rw [hqueries]
    exact QuerySource.ofDirectory_unlayered reader queryDirectory
  have hroot : cause.rootCause = cause := benchmarksIn_unlayered hplain tree _ _ file cause hcause
  exact ⟨file.location, by rw [LoadError.rootCause, hroot]⟩

private theorem discovery_eq {tree' : FileTree} (h : tree.SameShape tree') :
    l.discovery tree = l.discovery tree' := by
  have hglob : Reader.glob tree = Reader.glob tree' := by
    funext base pattern
    exact Reader.glob_eq h base pattern
  rw [discovery, discovery, Reader.resolve_eq h, hglob]

private theorem expansion_eq {tree' : FileTree} (h : tree.SameShape tree') {reader : Reader}
    {queryDirectory : String} (hqueries : l.queries = .ofDirectory reader queryDirectory)
    {d : Discovery} (htext : ∀ file ∈ d.files,
      l.config.isActive (nameOf d.directory file) = true →
      ∀ place, Reaches reader queryDirectory tree file place →
        tree.textAt? place = tree'.textAt? place) :
    l.expansion tree sequenceId d = l.expansion tree' sequenceId d := by
  rw [expansion, expansion, blocks, blocks]
  congr 1
  refine mapM_congr_of_mem fun file hfile => ?_
  obtain ⟨hmem, hactive⟩ := List.mem_filter.mp hfile
  rw [loadFile, loadFile, benchmarksIn_eq h hqueries (htext file hmem hactive)]

/-- Once the files are found, a load fails at the first wanted one that fails on its own, and it is
the same in every tree that differs in texts only and in none that a wanted file reaches. -/
theorem loadAll_fails_at_first_broken_file (l : Loader) (tree : FileTree) (sequenceId : String)
    (directory : Resource) (files : List Resource)
    (hfind : (l.find tree).outcome = .ok ⟨directory, files⟩) :
    (files.Pairwise fun f g => f.path.compare g.path ≠ .gt) ∧
    l.FailsAtFirst tree sequenceId ⟨directory, files⟩ (l.loadAll tree sequenceId).outcome ∧
    ∀ reader queryDirectory, l.queries = .ofDirectory reader queryDirectory →
      (∀ e, (l.loadAll tree sequenceId).outcome = .error e →
        ∃ location, e = .inFile location e.rootCause) ∧
      ∀ tree', tree.SameShape tree' →
        (∀ file ∈ files, l.config.isActive (nameOf directory file) = true →
          ∀ place, Reaches reader queryDirectory tree file place →
            tree.textAt? place = tree'.textAt? place) →
        (l.loadAll tree' sequenceId).outcome = (l.loadAll tree sequenceId).outcome := by
  have hload := loadAll_outcome_of_find sequenceId hfind
  refine ⟨pairwise_of_find hfind, ?_, fun reader queryDirectory hqueries => ⟨fun e he => ?_, ?_⟩⟩
  · rw [hload]
    exact expansion_failsAtFirst l tree sequenceId ⟨directory, files⟩
  · rw [hload] at he
    exact exists_layer_of_error sequenceId hqueries he
  · intro tree' hshape htext
    have hfind' : (l.find tree').outcome = .ok ⟨directory, files⟩ := by
      rw [(find_yields l tree').outcome_eq, ← discovery_eq hshape, discovery_of_find hfind]
    rw [hload, loadAll_outcome_of_find sequenceId hfind']
    exact (expansion_eq sequenceId hshape hqueries htext).symm

def Sample.damaged : FileTree :=
  ⟨[("b", .directory [("a.yaml", .file (some "- n\n")), ("c.yaml", .file none),
    ("d.yaml", .file none)])], []⟩

def Sample.altered : FileTree :=
  ⟨[("b", .directory [("a.yaml", .file (some "runs: 2\n")), ("c.yaml", .file none),
    ("d.yaml", .file none)])], []⟩

def Sample.damagedFiles : List Resource :=
  [⟨"/b/a.yaml", ⟨"/b/a.yaml"⟩⟩, ⟨"/b/c.yaml", ⟨"/b/c.yaml"⟩⟩, ⟨"/b/d.yaml", ⟨"/b/d.yaml"⟩⟩]

def Sample.selective : Loader :=
  ⟨{ benchmarksDir := "/b", activeBenchmarks? := some ["c", "d"] }, .offline,
    .ofDirectory .standard "/q", Sample.patterns⟩

private theorem Sample.find_damaged : (Sample.selective.find Sample.damaged).outcome =
    .ok ⟨Sample.directory, Sample.damagedFiles⟩ :=
  find_outcome_of_matching (by decide +kernel) (by decide +kernel) (by decide +kernel)
    (by decide +kernel)

private theorem Sample.isActive_damaged : ∀ file ∈ Sample.damagedFiles,
    Sample.selective.config.isActive (nameOf Sample.directory file) = true →
    file ∈ Sample.damagedFiles.tail := by
  decide +kernel

private theorem Sample.textAt?_damaged {file : Resource} (hfile : file ∈ Sample.damagedFiles.tail)
    {reader : Reader} {queryDirectory : String} {place : Place}
    (h : Reaches reader queryDirectory Sample.damaged file place) :
    Sample.damaged.textAt? place = Sample.altered.textAt? place := by
  have hunreadable : ∀ file ∈ Sample.damagedFiles.tail,
      (Definition.readFile Sample.damaged file).toOption.isSome = false := by
    decide +kernel
  have hplaces : ∀ file ∈ Sample.damagedFiles.tail,
      ((Sample.damaged.resolve file.path).toOption.map fun found =>
        (Sample.damaged.textAt? found.1, Sample.altered.textAt? found.1)) =
          some (none, none) := by
    decide +kernel
  cases hread : Definition.readFile Sample.damaged file with
  | ok definition =>
    have hnone := hunreadable file hfile
    rw [hread] at hnone
    cases hnone
  | error e =>
    obtain ⟨entry, hentry⟩ := exists_entry_of_reaches hread h
    have htexts := hplaces file hfile
    rw [hentry] at htexts
    obtain ⟨hdamaged, haltered⟩ := Prod.mk.inj (Option.some.inj htexts)
    exact hdamaged.trans haltered.symm

/-- The first file of the sample tree is not wanted, so the load fails at the second, and it does so
whatever the first one says. -/
theorem loadAll_sample_fails_at_first_broken_file :
    (Sample.selective.find Sample.damaged).outcome = .ok ⟨Sample.directory, Sample.damagedFiles⟩ ∧
      (∃ cause, (Sample.selective.loadAll Sample.damaged "seq").outcome =
        .error (.inFile "/b/c.yaml" cause)) ∧
      (Sample.selective.loadAll Sample.altered "seq").outcome =
        (Sample.selective.loadAll Sample.damaged "seq").outcome := by
  obtain ⟨-, hfails, hsame⟩ := loadAll_fails_at_first_broken_file Sample.selective Sample.damaged
    "seq" Sample.directory Sample.damagedFiles Sample.find_damaged
  refine ⟨Sample.find_damaged, ?_, ?_⟩
  · have hidle : Sample.selective.config.isActive
        (nameOf Sample.directory ⟨"/b/a.yaml", ⟨"/b/a.yaml"⟩⟩) = false := by
      decide +kernel
    have hbroken : (Sample.selective.alone Sample.damaged "seq" Sample.directory
        ⟨"/b/c.yaml", ⟨"/b/c.yaml"⟩⟩).toOption.isSome = false := by
      decide +kernel
    cases hcause : Sample.selective.alone Sample.damaged "seq" Sample.directory
        ⟨"/b/c.yaml", ⟨"/b/c.yaml"⟩⟩ with
    | ok bs =>
      rw [hcause] at hbroken
      cases hbroken
    | error cause =>
      refine ⟨cause, (hfails.first _).mpr ⟨[_], _, [_], cause, rfl, ?_, ?_, hcause, rfl⟩⟩
      · intro other hother hactive
        rw [List.mem_singleton.mp hother, hidle] at hactive
        cases hactive
      · decide +kernel
  · obtain ⟨-, hsame⟩ := hsame .standard "/q" rfl
    refine hsame Sample.altered rfl fun file hfile hactive place hplace => ?_
    exact Sample.textAt?_damaged (Sample.isActive_damaged file hfile hactive) hplace

end RunPlan.Loader
