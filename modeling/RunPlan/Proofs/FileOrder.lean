import RunPlan.Proofs.BenchmarkFields
import RunPlan.Proofs.FileExpansion
import RunPlan.Proofs.NaturalOrder

/-!
The order of the files does not matter. Main statement: where the files have names that differ
pairwise, the benchmarks of a load are the blocks of the wanted files one after the other, in the
natural order of the names, however the files were listed.
-/

set_option autoImplicit false

namespace RunPlan.Loader

open RunPlan.NaturalOrder

variable (l : Loader) (tree : FileTree) (sequenceId : String)

/-- The queries are those that are found for the names. In a directory that is one query for each
name, in their order. -/
def QueriesFor (names : List String) (queries : List Query) : Prop :=
  l.queries tree names = .ok queries ∧
    ∀ reader directory, l.queries = QuerySource.ofDirectory reader directory →
      List.Forall₂ (fun name query => QuerySource.query reader directory tree name = .ok query)
        names queries

/-- The benchmarks are what a file asks for: one for each of its descriptors, in their order. -/
def Expands (directory file : Resource) (bs : List Benchmark) : Prop :=
  ∃ definition descriptors, Definition.load tree file = .ok definition ∧
    Definition.descriptors definition = .ok descriptors ∧
    List.Forall₂ (fun (d : Descriptor) (b : Benchmark) => ∃ queries,
      l.QueriesFor tree d.queryNames queries ∧
      b.Follows (nameOf directory file) sequenceId l.config.environmentName d queries)
      descriptors bs

/-- The benchmarks of one file, read on its own; none if it cannot be read. -/
def block (directory file : Resource) : List Benchmark :=
  (l.benchmarksIn tree (nameOf directory file) sequenceId file).toOption.getD []

variable {l tree sequenceId}

private theorem queriesFor_of_eq_ok {names : List String} {queries : List Query}
    (h : l.queries tree names = .ok queries) : l.QueriesFor tree names queries := by
  refine ⟨h, fun reader directory hsource => ?_⟩
  rw [hsource] at h
  exact mapM_eq_ok_iff.mp h

theorem expands_of_benchmarksIn {directory file : Resource} {bs : List Benchmark}
    (h : l.benchmarksIn tree (nameOf directory file) sequenceId file = .ok bs) :
    l.Expands tree sequenceId directory file bs := by
  obtain ⟨definition, hdefinition, h⟩ := bind_eq_ok_iff.mp h
  obtain ⟨descriptors, hdescriptors, h⟩ := bind_eq_ok_iff.mp h
  refine ⟨definition, descriptors, hdefinition, hdescriptors, (mapM_eq_ok_iff.mp h).imp ?_⟩
  intro d b hb
  obtain ⟨queries, hqueries, hb⟩ := bind_eq_ok_iff.mp hb
  exact ⟨queries, queriesFor_of_eq_ok hqueries, Benchmark.follows_of_ofDescriptor hb⟩

private theorem name_of_expands {directory file : Resource} {bs : List Benchmark}
    (h : l.Expands tree sequenceId directory file bs) :
    ∀ b ∈ bs, b.name = nameOf directory file := by
  obtain ⟨-, descriptors, -, -, hall⟩ := h
  refine forall_mem_of_forall₂ hall ?_
  rintro d b ⟨queries, -, hfollows⟩
  exact hfollows.name

private theorem name_of_mem_block {directory file : Resource} {b : Benchmark}
    (h : b ∈ l.block tree sequenceId directory file) : b.name = nameOf directory file := by
  rw [block] at h
  cases hload : l.benchmarksIn tree (nameOf directory file) sequenceId file with
  | error e => simp [hload, Except.toOption] at h
  | ok bs =>
    rw [hload] at h
    exact name_of_expands (expands_of_benchmarksIn hload) b h

private theorem block_eq_of_benchmarksIn {directory file : Resource} {bs : List Benchmark}
    (h : l.benchmarksIn tree (nameOf directory file) sequenceId file = .ok bs) :
    l.block tree sequenceId directory file = bs := by
  rw [block, h]
  rfl

theorem blocks_eq_map_block {directory : Resource} {files : List Resource}
    (h : ∀ file ∈ l.wanted directory files,
      ∃ bs, l.benchmarksIn tree (nameOf directory file) sequenceId file = .ok bs) :
    l.blocks tree sequenceId directory files =
      .ok ((l.wanted directory files).map (l.block tree sequenceId directory)) := by
  rw [blocks, mapM_eq_ok_iff, List.forall₂_map_right_iff, List.forall₂_same]
  intro file hfile
  obtain ⟨bs, hbs⟩ := h file hfile
  rw [loadFile, mapError_eq_ok_iff, hbs, block_eq_of_benchmarksIn hbs]

private theorem expand_outcome_eq_flatMap {directory : Resource} {files : List Resource}
    (h : ∀ file ∈ l.wanted directory files,
      ∃ bs, l.benchmarksIn tree (nameOf directory file) sequenceId file = .ok bs) :
    (l.expand tree sequenceId ⟨directory, files⟩).outcome =
      .ok ((sortBy (nameOf directory) (l.wanted directory files)).flatMap
        (l.block tree sequenceId directory)) := by
  rw [(expand_yields l tree sequenceId ⟨directory, files⟩).outcome_eq, expansion,
    blocks_eq_map_block h]
  show Except.ok (sortBy Benchmark.name _) = _
  rw [← List.flatMap_def, sortBy_flatMap Benchmark.name (nameOf directory)]
  exact fun file b hb => name_of_mem_block hb

private theorem expand_outcome_singleton {directory file : Resource} {bs : List Benchmark}
    (hactive : l.config.isActive (nameOf directory file) = true)
    (h : l.benchmarksIn tree (nameOf directory file) sequenceId file = .ok bs) :
    (l.expand tree sequenceId ⟨directory, [file]⟩).outcome =
      .ok (l.block tree sequenceId directory file) := by
  have hwanted : l.wanted directory [file] = [file] := by
    simp only [wanted, List.filter_cons, hactive, if_true, List.filter_nil]
  rw [expand_outcome_eq_flatMap, hwanted, sortBy, List.mergeSort_singleton, List.flatMap_singleton]
  intro file' hfile'
  rw [hwanted, List.mem_singleton] at hfile'
  subst hfile'
  exact ⟨bs, h⟩

/-- Files with names that differ pairwise expand to the blocks of the wanted ones, strictly in the
natural order of the names, in whatever order they are listed. A block is what its file expands to
alone. -/
theorem expand_eq_blocks_in_natural_order (l : Loader) (tree : FileTree) (sequenceId : String)
    (directory : Resource) (files : List Resource)
    (hnames : (files.map (nameOf directory)).Nodup)
    (hloads : ∀ file ∈ files, l.config.isActive (nameOf directory file) = true →
      ∃ bs, l.benchmarksIn tree (nameOf directory file) sequenceId file = .ok bs) :
    ∃ ordered : List Resource,
      ordered.Perm (files.filter fun file => l.config.isActive (nameOf directory file)) ∧
      ordered.Pairwise (fun f g =>
        compareNames (nameOf directory f) (nameOf directory g) = .lt) ∧
      (∀ file ∈ ordered,
        l.Expands tree sequenceId directory file (l.block tree sequenceId directory file) ∧
        (l.expand tree sequenceId ⟨directory, [file]⟩).outcome =
          .ok (l.block tree sequenceId directory file)) ∧
      ∀ files' : List Resource, files'.Perm files →
        (l.expand tree sequenceId ⟨directory, files'⟩).outcome =
          .ok (ordered.flatMap (l.block tree sequenceId directory)) := by
  have hwanted : ((l.wanted directory files).map (nameOf directory)).Nodup :=
    hnames.sublist (List.filter_sublist.map _)
  have hread : ∀ file ∈ l.wanted directory files,
      ∃ bs, l.benchmarksIn tree (nameOf directory file) sequenceId file = .ok bs := by
    intro file hfile
    obtain ⟨hmem, hactive⟩ := List.mem_filter.mp hfile
    exact hloads file hmem hactive
  refine ⟨sortBy (nameOf directory) (l.wanted directory files), sortBy_perm _ _,
    pairwise_lt_sortBy _ hwanted, ?_, ?_⟩
  · intro file hfile
    have hmem := (sortBy_perm _ _).mem_iff.mp hfile
    obtain ⟨bs, hbs⟩ := hread file hmem
    refine ⟨?_, expand_outcome_singleton (List.mem_filter.mp hmem).2 hbs⟩
    rw [block_eq_of_benchmarksIn hbs]
    exact expands_of_benchmarksIn hbs
  · intro files' hperm
    have hperm' : (l.wanted directory files').Perm (l.wanted directory files) := hperm.filter _
    rw [expand_outcome_eq_flatMap fun file hfile => hread file (hperm'.mem_iff.mp hfile),
      sortBy_eq_of_perm _ hperm'.symm hwanted]

theorem expand_sample_files_in_natural_order :
    ([Sample.tenth, Sample.ninth].map (nameOf Sample.directory)).Nodup ∧
      (∀ file ∈ [Sample.tenth, Sample.ninth], ∃ bs, (Sample.loader .offline).benchmarksIn
        Sample.tree (nameOf Sample.directory file) "seq" file = .ok bs) ∧
      ((Sample.loader .offline).expand Sample.tree "seq"
          ⟨Sample.directory, [Sample.tenth, Sample.ninth]⟩).outcome =
        .ok ([Sample.ninth, Sample.tenth].flatMap
          ((Sample.loader .offline).block Sample.tree "seq" Sample.directory)) := by
  have hnames : ([Sample.tenth, Sample.ninth].map (nameOf Sample.directory)).Nodup := by
    decide +kernel
  have hread := Sample.exists_benchmarksIn
  refine ⟨hnames, hread, ?_⟩
  obtain ⟨ordered, hperm, hsorted, -, hall⟩ := expand_eq_blocks_in_natural_order
    (Sample.loader .offline) Sample.tree "seq" Sample.directory [Sample.tenth, Sample.ninth]
    hnames fun file hfile _ => hread file hfile
  have hordered : ordered = [Sample.ninth, Sample.tenth] := by
    refine List.Perm.eq_of_pairwise ?_ hsorted ?_ (hperm.trans (List.Perm.swap _ _ _))
    · intro f g _ _ hfg hgf
      exact absurd hgf (Std.OrientedCmp.not_lt_of_lt hfg)
    · decide +kernel
  rw [hall _ (List.Perm.refl _), hordered]

end RunPlan.Loader
