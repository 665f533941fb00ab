import RunPlan.Proofs.EndingWell

/-!
Loads that are cancelled by the time they have their unique names. Main statement: such a load ends
well in one case only, where ages are not checked, its call for the unique names is what cancelled
it, and that call still gave the names.
-/

set_option autoImplicit false

namespace RunPlan

open RunPlan.Await

/-- A service that cancels the load when it is asked for unique names, and still gives them. -/
def Sample.obliging : Service where
  uniqueNames requests := ⟨true, .answer (requests.map Service.offlineName)⟩
  executionAges names := Service.respond (names.map fun _ => ⟨0⟩)

def Sample.unchecking : Loader :=
  ⟨{ benchmarksDir := "/b", frequencyCheck := false }, Sample.obliging, Sample.queries,
    Sample.patterns⟩

namespace Loader

variable {l : Loader} {tree : FileTree} {sequenceId : String} {table : SummaryTable}
  {bs : List Benchmark} {names : List String} {t : Trace}

private theorem finish_of_cancelled (h : t.cancelled = true) :
    (l.finish table bs).runFrom t = (.error .cancelled, t) :=
  runFrom_check_bind_of_cancelled h

/-- Without a check of ages the names are all that a load waits for, even if it is cancelled while
it gets them. -/
theorem exists_finish_of_unchecked (table : SummaryTable)
    (hcheck : l.config.frequencyCheck = false) (hne : bs ≠ [])
    (hnames : (l.service.uniqueNames (bs.map Benchmark.nameRequest)).Gives bs.length names)
    {t : Trace} (ht : t.cancelled = false) :
    ∃ t', (l.finish table bs).runFrom t = (.ok ⟨named bs names, []⟩, t') := by
  have hassign := (runFrom_assignUniqueNames_eq_ok_iff hne (t := t)).mpr ⟨names, hnames, rfl, rfl⟩
  have hguard := runFrom_cancellable_eq_ok_iff.mpr ⟨ht, hassign⟩
  have hdrop : l.dropFresh table (named bs names) = pure ⟨named bs names, []⟩ := by
    rw [dropFresh, hcheck]
    rfl
  rw [finish, runFrom_check_bind ht, runFrom_bind_ok hguard, hdrop,
    runFrom_bind_ok (runFrom_pure _ _), runFrom_bind_ok (SummaryTable.runFrom_note _ _ _ _)]
  exact ⟨_, rfl⟩

private theorem not_cancelled_of_load_eq_ok {kept : List Benchmark}
    (h : ((l.load tree sequenceId).runFrom t).1 = .ok kept) : t.cancelled = false :=
  (included_of_load_eq_ok (Prod.ext h rfl)).1

private theorem load_eq_ok_iff_of_cancels (hincluded : l.included tree sequenceId = .ok bs)
    (hne : bs ≠ [])
    (hcancels : l.service.cancels (namesCall bs) = true) (kept : List Benchmark) :
    ((l.load tree sequenceId).runFrom t).1 = .ok kept ↔
      t.cancelled = false ∧ l.config.frequencyCheck = false ∧ ∃ names,
        (l.service.uniqueNames (bs.map Benchmark.nameRequest)).Gives bs.length names ∧
        kept = named bs names := by
  constructor
  · intro h
    obtain ⟨bs', made, hbs, hended⟩ := load_eq_ok (Prod.ext h rfl)
    obtain rfl : bs = bs' := Except.ok.inj (hincluded.symm.trans hbs)
    have hcheck : l.config.frequencyCheck = false := by
      by_contra hcheck
      rw [Bool.not_eq_false] at hcheck
      rw [hended.undisturbed hcheck hne] at hcancels
      cases hcancels
    refine ⟨hended.awake, hcheck, ?_⟩
    cases hended.course with
    | nothing => exact absurd rfl hne
    | unchecked _ hnames => exact ⟨_, hnames, rfl⟩
    | checked _ _ hages =>
      rw [hages.1] at hcheck
      cases hcheck
  · rintro ⟨ht, hcheck, names, hnames, rfl⟩
    obtain ⟨table, log, hrun⟩ := exists_runFrom_load hincluded ht
    have ht' : { t with log }.cancelled = false := ht
    obtain ⟨t', hfinish⟩ := exists_finish_of_unchecked table hcheck hne hnames ht'
    rw [hrun, hfinish]
    rfl

/-- A load that was cancelled before its naming phase does not end well. One that its call for the
unique names cancels ends well exactly if ages are not checked and the call gives the names: that
phase has no check of its own behind it. -/
theorem load_cancelled_at_naming (l : Loader) (tree : FileTree) (sequenceId : String) (t : Trace) :
    (t.cancelled = true → ∀ kept, ((l.load tree sequenceId).runFrom t).1 ≠ .ok kept) ∧
    (∀ table bs s, s.cancelled = true →
      (l.finish table bs).runFrom s = (.error .cancelled, s)) ∧
    ∀ bs, l.included tree sequenceId = .ok bs → bs ≠ [] →
      l.service.cancels (namesCall bs) = true →
      ∀ kept, ((l.load tree sequenceId).runFrom t).1 = .ok kept ↔
        t.cancelled = false ∧ l.config.frequencyCheck = false ∧ ∃ names,
          (l.service.uniqueNames (bs.map Benchmark.nameRequest)).Gives bs.length names ∧
          kept = named bs names := by
  refine ⟨?_, fun _ _ _ hs => finish_of_cancelled hs, ?_⟩
  · intro ht kept h
    rw [not_cancelled_of_load_eq_ok h] at ht
    cases ht
  · intro bs hincluded hne hcancels kept
    exact load_eq_ok_iff_of_cancels hincluded hne hcancels kept

theorem load_sample_cancelled_at_naming :
    ∃ bs names, Sample.unchecking.included Sample.lone "seq" = .ok bs ∧ bs ≠ [] ∧
      Sample.obliging.cancels (namesCall bs) = true ∧
      ((Sample.unchecking.load Sample.lone "seq").runFrom ⟨false, [], []⟩).1 =
        .ok (named bs names) := by
  obtain ⟨bs, hincluded⟩ : ∃ bs, Sample.unchecking.included Sample.lone "seq" = .ok bs :=
    exists_eq_ok_of_isSome (by decide +kernel)
  have hlength : (Sample.unchecking.included Sample.lone "seq").toOption.map List.length =
      some 1 := by
    decide +kernel
  rw [hincluded] at hlength
  have hne : bs ≠ [] := by
    rintro rfl
    cases hlength
  have hiff := (load_cancelled_at_naming Sample.unchecking Sample.lone "seq" ⟨false, [], []⟩).2.2 bs
    hincluded hne rfl
  refine ⟨bs, (bs.map Benchmark.nameRequest).map Service.offlineName, hincluded, hne, rfl, ?_⟩
  refine (hiff _).mpr ⟨rfl, rfl, _, ⟨rfl, ?_⟩, rfl⟩
  rw [List.length_map, List.length_map]

/-- Being cancelled by its naming call does not keep a load from ending well. -/
theorem not_forall_load_ne_ok_of_cancelled_at_naming :
    ¬ ∀ (l : Loader) (tree : FileTree) (sequenceId : String) (requests : List NameRequest),
      .names requests ∈ ((l.load tree sequenceId).runFrom ⟨false, [], []⟩).2.calls →
      l.service.cancels (.names requests) = true →
      ∀ kept, ((l.load tree sequenceId).runFrom ⟨false, [], []⟩).1 ≠ .ok kept := by
  intro hall
  have hcalls : ((Sample.unchecking.load Sample.lone "seq").runFrom ⟨false, [], []⟩).2.calls =
      [.names [⟨"t9", OrderedMap.ofList [("n", "1")]⟩]] := by
    decide +kernel
  have hmem : .names [⟨"t9", OrderedMap.ofList [("n", "1")]⟩] ∈
      ((Sample.unchecking.load Sample.lone "seq").runFrom ⟨false, [], []⟩).2.calls := by
    rw [hcalls]
    exact List.mem_cons_self
  obtain ⟨kept, hkept⟩ : ∃ kept,
      ((Sample.unchecking.load Sample.lone "seq").runFrom ⟨false, [], []⟩).1 = .ok kept :=
    Ending.exists_eq_ok_of_isSome (by decide +kernel)
  exact hall Sample.unchecking Sample.lone "seq" _ hmem rfl kept hkept

end Loader

end RunPlan
