import RunPlan.Proofs.Definition.Expansion
import RunPlan.Proofs.FileOrder
import RunPlan.Proofs.LoadCourse

/-!
What a benchmark says is what its variables say. Main statement: every benchmark that the files of a
load expand to binds the mandatory variables, holds no template, and has the settings that its own
variables give, with the defaults where they give none.
-/

set_option autoImplicit false

namespace RunPlan

open RunPlan.Text

/-- What a variable says as a count: nothing if it is absent, else the number in its text. -/
inductive SaysCount (vars : Variables) (key : String) : Option Nat → Prop
  | absent (h : vars.get? key = none) : SaysCount vars key none
  | read {text : String} {n : Nat} (h : vars.get? key = some text)
      (hread : readCount text = .ok n) : SaysCount vars key (some n)

def listedItems (vars : Variables) (key : String) : List String :=
  ((vars.get? key).map splitList).getD []

/-- The key that says how often to run before it counts: the older spelling where the newer is
absent. -/
def prewarmKey (vars : Variables) : String :=
  if vars.contains Key.prewarmRuns then Key.prewarmRuns else Key.prewarmRepeats

/-- A benchmark that binds the mandatory variables, whose variables hold no template, and which says
what its variables say. -/
structure Benchmark.Reflects (b : Benchmark) : Prop where
  queryNames : Key.queryNames ∈ b.vars.keys
  settled : ∀ key value, b.vars.get? key = some value → Template.isTemplated value = false
  dataSource : b.vars.get? Key.dataSource = some b.dataSource
  runs : ∃ n?, SaysCount b.vars Key.runs n? ∧ b.runs = n?.getD 3
  prewarmRuns : ∃ n?, SaysCount b.vars (prewarmKey b.vars) n? ∧ b.prewarmRuns = n?.getD 0
  concurrency : ∃ n?, SaysCount b.vars Key.concurrency n? ∧ b.concurrency = n?.getD 1
  frequency : ∃ days?, SaysCount b.vars Key.frequency days? ∧
    b.frequency? = days?.map fun days => Span.ofDays days
  beforeBenchmark : b.beforeBenchmark = listedItems b.vars Key.beforeBenchmark
  afterBenchmark : b.afterBenchmark = listedItems b.vars Key.afterBenchmark
  beforeExecution : b.beforeExecution = listedItems b.vars Key.beforeExecution
  afterExecution : b.afterExecution = listedItems b.vars Key.afterExecution

namespace Descriptor

variable {d : Descriptor} {key : String} {n? : Option Nat}

private theorem saysCount_of_count (h : d.count key = .ok n?) : SaysCount d.vars key n? := by
  rw [count] at h
  cases hvalue : d.vars.get? key with
  | none =>
    rw [hvalue] at h
    cases h
    exact .absent hvalue
  | some text =>
    rw [hvalue] at h
    cases hread : readCount text with
    | error fault =>
      simp only [hread] at h
      cases h
    | ok n =>
      simp only [hread] at h
      cases h
      exact .read hvalue hread

private theorem saysCount_of_prewarmRuns (h : d.prewarmRuns = .ok n?) :
    SaysCount d.vars (prewarmKey d.vars) n? := by
  obtain ⟨newer?, hnewer, h⟩ := bind_eq_ok_iff.mp h
  have hsays := saysCount_of_count hnewer
  cases hsays with
  | absent habsent =>
    have hkey : prewarmKey d.vars = Key.prewarmRepeats := by
      rw [prewarmKey, OrderedMap.contains, habsent]
      rfl
    rw [hkey]
    exact saysCount_of_count h
  | read hvalue hread =>
    have hkey : prewarmKey d.vars = Key.prewarmRuns := by
      rw [prewarmKey, OrderedMap.contains, hvalue]
      rfl
    cases h
    rw [hkey]
    exact .read hvalue hread

private theorem get?_dataSource (d : Descriptor) :
    d.vars.get? Key.dataSource = some d.dataSource := by
  obtain ⟨text, htext⟩ := Option.isSome_iff_exists.mp d.hasDataSource
  rw [dataSource, value, htext]
  rfl

end Descriptor

private theorem Benchmark.reflects_of_follows {b : Benchmark} {name sequenceId environment : String}
    {d : Descriptor} {queries : List Query}
    (h : b.Follows name sequenceId environment d queries)
    (hsettled : ∀ key value, d.vars.get? key = some value → Template.isTemplated value = false) :
    b.Reflects := by
  obtain ⟨runs?, hruns, hb⟩ := h.runs
  obtain ⟨prewarmRuns?, hprewarmRuns, hb'⟩ := h.prewarmRuns
  obtain ⟨concurrency?, hconcurrency, hb''⟩ := h.concurrency
  obtain ⟨days?, hdays, hfrequency⟩ := h.frequency
  have hvars := h.vars
  constructor
  · rw [hvars]
    exact (OrderedMap.contains_iff _ _).mp d.hasQueryNames
  · rwa [hvars]
  · rw [hvars, h.dataSource, d.get?_dataSource]
  · rw [hvars]
    exact ⟨runs?, Descriptor.saysCount_of_count hruns, hb⟩
  · rw [hvars]
    exact ⟨prewarmRuns?, Descriptor.saysCount_of_prewarmRuns hprewarmRuns, hb'⟩
  · rw [hvars]
    exact ⟨concurrency?, Descriptor.saysCount_of_count hconcurrency, hb''⟩
  · rw [hvars]
    exact ⟨days?, Descriptor.saysCount_of_count hdays, hfrequency⟩
  · rw [hvars, h.beforeBenchmark]
    rfl
  · rw [hvars, h.afterBenchmark]
    rfl
  · rw [hvars, h.beforeExecution]
    rfl
  · rw [hvars, h.afterExecution]
    rfl

theorem Benchmark.Reflects.withUniqueName {b : Benchmark} (h : b.Reflects) (uniqueName : String) :
    (b.withUniqueName uniqueName).Reflects where
  queryNames := h.queryNames
  settled := h.settled
  dataSource := h.dataSource
  runs := h.runs
  prewarmRuns := h.prewarmRuns
  concurrency := h.concurrency
  frequency := h.frequency
  beforeBenchmark := h.beforeBenchmark
  afterBenchmark := h.afterBenchmark
  beforeExecution := h.beforeExecution
  afterExecution := h.afterExecution

private theorem Definition.settled_of_descriptors {definition : Yaml.Mapping} {ds : List Descriptor}
    (h : descriptors definition = .ok ds) :
    ∀ d ∈ ds, ∀ key value, d.vars.get? key = some value → Template.isTemplated value = false := by
  obtain ⟨cs, -, h⟩ := bind_eq_ok_iff.mp h
  refine forall_mem_of_mapM_eq_ok h fun _ d hd => ?_
  exact (settles_of_evaluate (evaluate_of_describe hd)).settled

namespace Loader

variable {l : Loader} {tree : FileTree} {sequenceId : String}

private theorem reflects_of_expands {directory file : Resource} {bs : List Benchmark}
    (h : l.Expands tree sequenceId directory file bs) : ∀ b ∈ bs, b.Reflects := by
  obtain ⟨definition, ds, -, hds, hall⟩ := h
  have hsettled := Definition.settled_of_descriptors hds
  refine forall_mem_of_forall₂ ((List.forall₂_and_left ds bs).mpr ⟨hsettled, hall⟩) ?_
  rintro d b ⟨hd, queries, -, hfollows⟩
  exact Benchmark.reflects_of_follows hfollows hd

theorem reflects_of_allBenchmarks {all : List Benchmark}
    (h : l.allBenchmarks tree sequenceId = .ok all) : ∀ b ∈ all, b.Reflects := by
  obtain ⟨d, -, h⟩ := bind_eq_ok_iff.mp h
  obtain ⟨bss, hbss, rfl⟩ := map_eq_ok_iff.mp h
  have hblocks : ∀ bs ∈ bss, ∀ b ∈ bs, b.Reflects := by
    refine forall_mem_of_mapM_eq_ok hbss fun file bs hbs => ?_
    exact reflects_of_expands (expands_of_benchmarksIn (mapError_eq_ok_iff.mp hbs))
  intro b hb
  obtain ⟨bs, hbs, hmem⟩ := List.mem_flatten.mp ((NaturalOrder.sortBy_perm _ _).mem_iff.mp hb)
  exact hblocks bs hbs b hmem

theorem reflects_of_included {bs : List Benchmark} (h : l.included tree sequenceId = .ok bs) :
    ∀ b ∈ bs, b.Reflects := by
  obtain ⟨chosen, all, -, hall, rfl⟩ := exists_of_included_eq_ok h
  exact fun b hb => reflects_of_allBenchmarks hall b (List.mem_filter.mp hb).1

end Loader

end RunPlan
