import RunPlan.Proofs.FileOrder
import RunPlan.Proofs.LoadCourse

/-!
What a load returns. Main statement: with a service that answers in full, a load fails exactly where
its files cannot be expanded, and what it returns are the expanded benchmarks without those that the
filter rejects and those that ran recently, in their order and under their unique names.
-/

set_option autoImplicit false

namespace RunPlan

/-- A service that answers every call at once, with one item for each that is asked for. -/
structure Service.AnswersInFull (service : Service) : Prop where
  names : ∀ requests, ∃ names, service.uniqueNames requests = respond names ∧
    names.length = requests.length
  ages : ∀ names, ∃ ages, service.executionAges names = respond ages ∧ ages.length = names.length

theorem Service.AnswersInFull.settles {service : Service} (h : service.AnswersInFull) :
    service.Settles where
  names requests := by
    obtain ⟨names, hnames, -⟩ := h.names requests
    rw [hnames]
    exact ⟨rfl, nofun⟩
  ages names := by
    obtain ⟨ages, hages, -⟩ := h.ages names
    rw [hages]
    exact ⟨rfl, nofun⟩

theorem Service.offlineWithAge_answersInFull (age : Span) : (offlineWithAge age).AnswersInFull where
  names _ := ⟨_, rfl, List.length_map _⟩
  ages _ := ⟨_, rfl, List.length_map _⟩

namespace Loader

open RunPlan.Freshness

/-- Whether the benchmark at a position is left out because it ran recently. -/
def isDropped (l : Loader) (bs : List Benchmark) (ages : List Span) (i : Nat) : Bool :=
  l.config.frequencyCheck && ranRecently bs ages i

/-- What is chosen among the included benchmarks: `names` and `ages` are the answers of the service,
`kept` are the named benchmarks that should run, and `fresh` those that ran recently. -/
structure Selects (l : Loader) (included : List Benchmark) (names : List String) (ages : List Span)
    (kept fresh : List Benchmark) : Prop where
  names_length : names.length = included.length
  names_given : included ≠ [] →
    l.service.uniqueNames (included.map Benchmark.nameRequest) = Service.respond names
  ages_given : l.ChecksAges included →
    l.service.executionAges (asked included names) = Service.respond ages ∧
      ages.length = (asked included names).length
  kept_eq : kept =
    itemsAt (fun i => !l.isDropped (named included names) ages i) (named included names)
  fresh_eq : fresh = itemsAt (l.isDropped (named included names) ages) (named included names)

variable {l : Loader} {bs : List Benchmark} {names : List String}

private theorem not_fails_of_answersInFull (h : l.service.AnswersInFull) (c : ServiceCall)
    (e : LoadError) :
    ¬ l.service.Fails c e := by
  cases c with
  | names requests =>
    obtain ⟨names, hnames, hlength⟩ := h.names requests
    exact Response.not_fails_of_gives ⟨by rw [hnames]; rfl, hlength⟩
  | ages asked =>
    obtain ⟨ages, hages, hlength⟩ := h.ages asked
    exact Response.not_fails_of_gives ⟨by rw [hages]; rfl, hlength⟩

private theorem frequency?_mem_of_named {i : Nat} {frequency : Span}
    (h : (named bs names)[i]?.bind Benchmark.frequency? = some frequency) :
    ∃ b ∈ bs, b.frequency? = some frequency := by
  obtain ⟨b, hb, hfrequency⟩ := Option.bind_eq_some_iff.mp h
  rw [named, List.getElem?_zipWith_eq_some] at hb
  obtain ⟨b', name, hb', -, rfl⟩ := hb
  exact ⟨b', List.mem_of_getElem? hb', hfrequency⟩

private theorem isDropped_of_not_checksAges (h : ¬ l.ChecksAges bs) (ages : List Span) :
    l.isDropped (named bs names) ages = fun _ => false := by
  funext i
  rw [isDropped, Bool.and_eq_false_iff, or_iff_not_imp_left, Bool.not_eq_false]
  intro hcheck
  rw [ranRecently]
  split
  · rename_i frequency age hfrequency hage
    obtain ⟨b, hb, hb'⟩ := frequency?_mem_of_named hfrequency
    exact absurd ⟨hcheck, b, hb, by rw [hb']; rfl⟩ h
  · rfl

theorem Course.selects {result : Ending (List Benchmark)} {made : List ServiceCall}
    (h : l.Course (.ok bs) result made) (hservice : l.service.AnswersInFull) :
    ∃ names ages kept fresh, result = .ok kept ∧ l.Selects bs names ages kept fresh := by
  have hgiven : ∀ {names : List String},
      (l.service.uniqueNames (bs.map Benchmark.nameRequest)).Gives bs.length names →
      l.service.uniqueNames (bs.map Benchmark.nameRequest) = Service.respond names := by
    intro names hnames
    obtain ⟨names', hrespond, -⟩ := hservice.names (bs.map Benchmark.nameRequest)
    have hreply := hnames.1
    rw [hrespond] at hreply ⊢
    rw [Reply.answer.inj hreply]
  cases h with
  | nothing =>
    refine ⟨[], [], [], [], rfl, rfl, fun hne => absurd rfl hne, ?_, rfl, rfl⟩
    rintro ⟨-, b, hb, -⟩
    cases hb
  | unnamed _ hfails => exact absurd hfails (not_fails_of_answersInFull hservice _ _)
  | unaged _ _ _ hfails => exact absurd hfails (not_fails_of_answersInFull hservice _ _)
  | unchecked _ hnames hages =>
    refine ⟨_, [], _, [], rfl, hnames.2, fun _ => hgiven hnames, fun h => absurd h hages, ?_, ?_⟩
    · rw [isDropped_of_not_checksAges hages]
      exact (itemsAt_true _).symm
    · rw [isDropped_of_not_checksAges hages]
      exact (itemsAt_false _).symm
  | @checked _ names ages _ hnames hages hgivenAges =>
    have hdropped : l.isDropped (named bs names) ages = ranRecently (named bs names) ages := by
      funext i
      rw [isDropped, hages.1, Bool.true_and]
    refine ⟨names, ages, _, _, rfl, hnames.2, fun _ => hgiven hnames, fun _ => ⟨?_, hgivenAges.2⟩,
      ?_, rfl⟩
    · obtain ⟨ages', hrespond, -⟩ := hservice.ages (asked bs names)
      have hreply := hgivenAges.1
      rw [hrespond] at hreply ⊢
      rw [Reply.answer.inj hreply]
    · rw [hdropped, part_eq]

theorem Selects.length_eq {ages : List Span} {kept fresh : List Benchmark}
    (h : l.Selects bs names ages kept fresh) : kept.length + fresh.length = bs.length := by
  have hnamed : (named bs names).length = bs.length := by
    rw [named, List.length_zipWith, h.names_length, Nat.min_self]
  rw [h.kept_eq, h.fresh_eq, ← List.length_append, (perm_itemsAt_not_append _ _).length_eq, hnamed]

/-- A load with a service that answers in full ends with the same error as the expansion of its
files, and else with the benchmarks that are selected among those that the filter accepts. All
benchmarks are kept, recently tested, or rejected by the filter. -/
theorem load_selects (l : Loader) (tree : FileTree) (sequenceId : String) (t : Trace)
    {chosen : VariableFilter}
    (hparse : VariableFilter.parse l.patterns l.config.activeVariables? = .ok chosen)
    (hservice : l.service.AnswersInFull) (ht : t.cancelled = false) :
    (∀ e, ((l.load tree sequenceId).runFrom t).1 = .error e ↔
      (l.loadAll tree sequenceId).outcome = .error e) ∧
    ∀ all, (l.loadAll tree sequenceId).outcome = .ok all →
      ∃ names ages kept fresh, ((l.load tree sequenceId).runFrom t).1 = .ok kept ∧
        l.Selects (all.filter chosen.accepts) names ages kept fresh ∧
        all.length =
          kept.length + fresh.length + (all.filter fun b => !chosen.accepts b).length := by
  obtain ⟨result, made, hcourse, hmakes⟩ := load_course l hservice.settles tree sequenceId
  obtain ⟨log, hrun⟩ := hmakes t ht
  rw [included, hparse] at hcourse
  rw [hrun]
  cases hall : (l.loadAll tree sequenceId).outcome with
  | error e =>
    rw [hall] at hcourse
    cases hcourse
    refine ⟨fun e' => by rw [Ending.error.injEq, Except.error.injEq], ?_⟩
    intro all h
    cases h
  | ok all =>
    rw [hall] at hcourse
    obtain ⟨names, ages, kept, fresh, rfl, hselects⟩ := Course.selects hcourse hservice
    constructor
    · intro e
      constructor
      · intro h
        cases h
      · intro h
        cases h
    · intro all' h
      cases h
      refine ⟨names, ages, kept, fresh, rfl, hselects, ?_⟩
      rw [hselects.length_eq, ← List.length_eq_length_filter_add]

private theorem exists_sample_allBenchmarks :
    ∃ all, (Sample.loader .offline).allBenchmarks Sample.tree "seq" = .ok all := by
  obtain ⟨files, hdiscovery, hfiles⟩ := Sample.exists_discovery
  have hblocks := blocks_eq_map_block (l := Sample.loader .offline) fun file hfile =>
    Sample.exists_benchmarksIn file (hfiles file (List.mem_filter.mp hfile).1)
  exact ⟨_, bind_eq_ok_iff.mpr ⟨_, hdiscovery, map_eq_ok_iff.mpr ⟨_, hblocks, rfl⟩⟩⟩

theorem exists_sample_filter :
    ∃ chosen, VariableFilter.parse Sample.patterns (some "n=1") = .ok chosen :=
  exists_eq_ok_of_isSome (by decide +kernel)

theorem exists_sample_included (service : Service) :
    ∃ bs, (Sample.loader service).included Sample.tree "seq" = .ok bs := by
  obtain ⟨chosen, hparse⟩ := exists_sample_filter
  obtain ⟨all, hall⟩ := exists_sample_allBenchmarks
  have hall' : ((Sample.loader service).loadAll Sample.tree "seq").outcome = .ok all :=
    (loadAll_yields (Sample.loader service) Sample.tree "seq").outcome_eq.trans hall
  exact ⟨_, bind_eq_ok_iff.mpr ⟨chosen, hparse, bind_eq_ok_iff.mpr ⟨all, hall', rfl⟩⟩⟩

theorem load_sample_selects :
    ∃ chosen, VariableFilter.parse Sample.patterns (some "n=1") = .ok chosen ∧
      Service.offline.AnswersInFull ∧
      ∃ all names ages kept fresh,
        ((Sample.loader .offline).loadAll Sample.tree "seq").outcome = .ok all ∧
        (((Sample.loader .offline).load Sample.tree "seq").runFrom ⟨false, [], []⟩).1 = .ok kept ∧
        (Sample.loader .offline).Selects (all.filter chosen.accepts) names ages kept fresh := by
  have hservice : Service.offline.AnswersInFull :=
    { names := fun requests => ⟨_, rfl, List.length_map _⟩
      ages := fun names => ⟨_, rfl, List.length_map _⟩ }
  obtain ⟨chosen, hparse⟩ : ∃ chosen,
      VariableFilter.parse Sample.patterns (some "n=1") = .ok chosen :=
    exists_eq_ok_of_isSome (by decide +kernel)
  obtain ⟨all, hall⟩ := exists_sample_allBenchmarks
  rw [← (loadAll_yields (Sample.loader .offline) Sample.tree "seq").outcome_eq] at hall
  obtain ⟨-, hselects⟩ := load_selects (Sample.loader .offline) Sample.tree "seq"
    ⟨false, [], []⟩ hparse hservice rfl
  obtain ⟨names, ages, kept, fresh, hload, hselected, -⟩ := hselects all hall
  exact ⟨chosen, hparse, hservice, all, names, ages, kept, fresh, hall, hload, hselected⟩

end Loader

end RunPlan
