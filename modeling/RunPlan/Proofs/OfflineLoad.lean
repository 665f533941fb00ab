import RunPlan.Proofs.AgeByName
import RunPlan.Proofs.BenchmarkVariables
import RunPlan.Proofs.EndingWell

/-!
Loads without a network. Main statement: a load over the offline service fails exactly where its
files cannot be expanded, and returns the chosen benchmarks under their offline names, without those
that declare at least as many days as the offline service tells. Files can declare that many: counts
go up to more than twice the days that this service tells.
-/

set_option autoImplicit false

namespace RunPlan

open RunPlan.Load

def Service.offlineAge (_ : String) : Span := Span.ofDays offlineDays

/-- A benchmark under the name that the offline service gives it. -/
def Benchmark.offlineNamed (b : Benchmark) : Benchmark :=
  b.withUniqueName (Service.offlineName b.nameRequest)

/-- A file with one benchmark, which declares as many days as the offline service tells. -/
def Sample.patient : FileTree :=
  ⟨[("b", .directory [("t.yaml", .file (some
    "data-source: d\nquery-names: q\nn: 1\nfrequency: 2147483647\n"))])], []⟩

private theorem Span.ofDays_le_ofDays_iff {m n : Int} :
    (Span.ofDays m).milliseconds ≤ (Span.ofDays n).milliseconds ↔ m ≤ n := by
  simp only [ofDays, millisecondsPerDay]
  omega

private theorem Service.offline_tellsAges : Service.offline.TellsAges Service.offlineAge :=
  fun _ => rfl

private theorem Benchmark.Reflects.isFresh_offlineNamed_iff {b : Benchmark} (h : b.Reflects) :
    b.offlineNamed.isFresh Service.offlineAge = true ↔
      ∃ n : Nat, SaysCount b.vars Key.frequency (some n) ∧ Service.offlineDays ≤ n := by
  have hname : b.offlineNamed.uniqueName? = some (Service.offlineName b.nameRequest) := rfl
  have hfrequency : b.offlineNamed.frequency? = b.frequency? := rfl
  rw [isFresh, hname, hfrequency]
  obtain ⟨days?, hsays, hb⟩ := h.frequency
  rw [hb]
  cases hsays with
  | absent habsent =>
    constructor
    · intro hfresh
      cases hfresh
    · rintro ⟨n, hread, -⟩
      cases hread with
      | read hvalue => cases habsent.symm.trans hvalue
  | @read text n hvalue hread =>
    have hfresh : decide ((Service.offlineAge (Service.offlineName b.nameRequest)).milliseconds ≤
        (Span.ofDays n).milliseconds) = true ↔ Service.offlineDays ≤ n := by
      rw [decide_eq_true_iff]
      exact Span.ofDays_le_ofDays_iff
    refine Iff.trans hfresh ⟨fun hdays => ⟨n, .read hvalue hread, hdays⟩, ?_⟩
    rintro ⟨n', hsays', hdays⟩
    cases hsays' with
    | read hvalue' hread' =>
      obtain rfl := Option.some.inj (hvalue.symm.trans hvalue')
      obtain rfl := Except.ok.inj (hread.symm.trans hread')
      exact hdays

namespace Loader

variable {l : Loader} {tree : FileTree} {sequenceId : String} {bs kept : List Benchmark}
  {names : List String}

private theorem named_offline (h : bs ≠ [] →
      (Service.offline.uniqueNames (bs.map Benchmark.nameRequest)).Gives bs.length names) :
    named bs names = bs.map Benchmark.offlineNamed := by
  by_cases hne : bs = []
  · subst hne
    rfl
  · have hnames : names = (bs.map Benchmark.nameRequest).map Service.offlineName :=
      (Reply.answer.inj (h hne).1).symm
    rw [named, hnames, List.map_map, List.zipWith_map_right, List.zipWith_self]
    rfl

/-- Over the offline service a load that expanded its files goes on to the end, and every benchmark
has the same age. -/
theorem Course.eq_ok_of_offline {result : Ending (List Benchmark)}
    {made : List ServiceCall} (h : l.Course (.ok bs) result made)
    (hservice : l.service = .offline) :
    result = .ok ((bs.map Benchmark.offlineNamed).filter fun b =>
      !(l.config.frequencyCheck && b.isFresh Service.offlineAge)) := by
  have hages : l.service.TellsAges Service.offlineAge := by
    rw [hservice]
    exact Service.offline_tellsAges
  obtain ⟨-, -, kept, -, rfl, -⟩ := h.selects (by
    rw [hservice]
    exact Service.offlineWithAge_answersInFull _)
  obtain ⟨names, -, hnames, hkept⟩ := h.kept_eq_filter hages
  rw [hservice] at hnames
  rw [hkept, named_offline hnames]

private theorem included_eq_map {chosen : VariableFilter}
    (h : VariableFilter.parse l.patterns l.config.activeVariables? = .ok chosen) :
    l.included tree sequenceId =
      (l.loadAll tree sequenceId).outcome.map fun all => all.filter chosen.accepts := by
  rw [included, h]
  rfl

/-- A load over the offline service fails where its files cannot be expanded. Otherwise it returns
the chosen benchmarks without those that ran recently, which are those that declare at least the
days that the offline service tells. -/
theorem load_offline (l : Loader) (tree : FileTree) (sequenceId : String) {chosen : VariableFilter}
    (hparse : VariableFilter.parse l.patterns l.config.activeVariables? = .ok chosen)
    (hservice : l.service = .offline) (t : Trace) (ht : t.cancelled = false) :
    (∀ e, ((l.load tree sequenceId).runFrom t).1 = .error e ↔
      (l.loadAll tree sequenceId).outcome = .error e) ∧
    ∀ all, (l.loadAll tree sequenceId).outcome = .ok all →
      ((l.load tree sequenceId).runFrom t).1 =
        .ok (((all.filter chosen.accepts).map Benchmark.offlineNamed).filter fun b =>
          !(l.config.frequencyCheck && b.isFresh Service.offlineAge)) ∧
      ∀ b ∈ all, b.offlineNamed.isFresh Service.offlineAge = true ↔
        ∃ n : Nat, SaysCount b.vars Key.frequency (some n) ∧ Service.offlineDays ≤ n := by
  have hsettles : l.service.Settles := by
    rw [hservice]
    exact (Service.offlineWithAge_answersInFull _).settles
  obtain ⟨result, made, hcourse, hmakes⟩ := load_course l hsettles tree sequenceId
  obtain ⟨log, hrun⟩ := hmakes t ht
  rw [hrun]
  rw [included_eq_map hparse] at hcourse
  cases hload : (l.loadAll tree sequenceId).outcome with
  | error e =>
    rw [hload] at hcourse
    cases hcourse with
    | failed =>
      refine ⟨fun e' => by rw [Ending.error.injEq, Except.error.injEq], fun all hall => ?_⟩
      cases hall
  | ok all =>
    rw [hload] at hcourse
    have hresult := Course.eq_ok_of_offline hcourse hservice
    refine ⟨fun e => ?_, fun all' hall => ?_⟩
    · rw [hresult]
      constructor
      · intro he
        cases he
      · intro he
        cases he
    · obtain rfl := Except.ok.inj hall
      refine ⟨hresult, fun b hb => Benchmark.Reflects.isFresh_offlineNamed_iff ?_⟩
      rw [(loadAll_yields l tree sequenceId).outcome_eq] at hload
      exact reflects_of_allBenchmarks hload b hb

theorem load_sample_offline :
    ∃ chosen all, VariableFilter.parse Sample.patterns (some "n=1") = .ok chosen ∧
      ((Sample.loader .offline).loadAll Sample.patient "seq").outcome = .ok all ∧
      ((Sample.loader .offline).load Sample.patient "seq").outcome =
        .ok (((all.filter chosen.accepts).map Benchmark.offlineNamed).filter fun b =>
          !b.isFresh Service.offlineAge) ∧
      ∀ b ∈ all, b.offlineNamed.isFresh Service.offlineAge = true ↔
        ∃ n : Nat, SaysCount b.vars Key.frequency (some n) ∧ Service.offlineDays ≤ n := by
  obtain ⟨chosen, hparse⟩ := exists_sample_filter
  obtain ⟨all, hall⟩ : ∃ all,
      ((Sample.loader .offline).loadAll Sample.patient "seq").outcome = .ok all :=
    exists_eq_ok_of_isSome (by decide +kernel)
  obtain ⟨hload, hfresh⟩ := (load_offline (Sample.loader .offline) Sample.patient "seq" hparse rfl
    ⟨false, [], []⟩ rfl).2 all hall
  exact ⟨chosen, all, hparse, hall, hload, hfresh⟩

/-- A benchmark that declares as many days as the offline service tells is left out. -/
theorem not_forall_load_offline_keeps :
    ¬ ∀ (l : Loader) (tree : FileTree) (sequenceId : String) (chosen : VariableFilter)
        (all : List Benchmark), l.service = .offline →
      VariableFilter.parse l.patterns l.config.activeVariables? = .ok chosen →
      (l.loadAll tree sequenceId).outcome = .ok all →
      ∃ kept, (l.load tree sequenceId).outcome = .ok kept ∧
        ∀ b ∈ all, chosen.accepts b = true → ∃ b' ∈ kept, b'.name = b.name ∧ b'.vars = b.vars := by
  intro hkeeps
  have hview : ((VariableFilter.parse Sample.patterns (some "n=1")).toOption.bind fun chosen =>
      (((Sample.loader .offline).loadAll Sample.patient "seq").outcome.toOption.map fun all =>
        all.map chosen.accepts)) = some [true] := by
    decide +kernel
  have hload : (((Sample.loader .offline).load Sample.patient "seq").outcome.toOption.map
      List.length) = some 0 := by
    decide +kernel
  obtain ⟨chosen, hparse, hview⟩ := Option.bind_eq_some_iff.mp hview
  obtain ⟨all, hall, hview⟩ := Option.map_eq_some_iff.mp hview
  obtain ⟨b, rest, rfl, haccepts, -⟩ := List.map_eq_cons_iff.mp hview
  obtain ⟨kept, hkept, hmem⟩ := hkeeps (Sample.loader .offline) Sample.patient "seq" chosen
    (b :: rest) rfl (eq_ok_of_toOption hparse) (eq_ok_of_toOption hall)
  rw [hkept] at hload
  obtain rfl := List.eq_nil_of_length_eq_zero (Option.some.inj hload)
  obtain ⟨b', hb', -⟩ := hmem b List.mem_cons_self haccepts
  cases hb'

end Loader

end RunPlan
