import RunPlan.Proofs.LoadCourse

/-!
The calls that a load makes. Main statement: a load asks for the unique names of the benchmarks that
were included and then for the ages of those with a frequency, each at most once and only if there
is something to ask for, and the first call that fails ends it with its error.
-/

set_option autoImplicit false

namespace RunPlan.Loader

open RunPlan.Freshness

/-- What a load asks the service for, and how a call that fails ends it. -/
structure AsksInTurn (l : Loader) (included : Except LoadError (List Benchmark))
    (result : Ending (List Benchmark)) (made : List ServiceCall) : Prop where
  order : ∃ requests names, made <+: [.names requests, .ages names]
  names : ∀ requests, .names requests ∈ made ↔
    ∃ bs, included = .ok bs ∧ bs ≠ [] ∧ requests = bs.map fun b => ⟨b.name, b.freeVariables⟩
  ages : ∀ askedFor, .ages askedFor ∈ made ↔
    ∃ bs names, included = .ok bs ∧ bs ≠ [] ∧
      (l.service.uniqueNames (bs.map Benchmark.nameRequest)).Gives bs.length names ∧
      l.ChecksAges bs ∧ askedFor = asked bs names
  fails : ∀ c ∈ made, ∀ e, l.service.Fails c e → result = .error e ∧ made.getLast? = some c
  error : ∀ e, result = .error e ↔ included = .error e ∨ ∃ c ∈ made, l.service.Fails c e

section Courses

variable {l : Loader} {included : Except LoadError (List Benchmark)}
  {result : Ending (List Benchmark)} {made : List ServiceCall}

theorem Course.order (h : l.Course included result made) :
    ∃ requests names, made <+: [.names requests, .ages names] := by
  cases h with
  | failed | nothing => exact ⟨[], [], List.nil_prefix⟩
  | unnamed | unchecked => exact ⟨_, [], List.prefix_append [_] [_]⟩
  | unaged | checked => exact ⟨_, _, List.prefix_rfl⟩

private theorem Course.names_mem_iff (h : l.Course included result made)
    (requests : List NameRequest) :
    .names requests ∈ made ↔
      ∃ bs, included = .ok bs ∧ bs ≠ [] ∧ requests = bs.map Benchmark.nameRequest := by
  have hsome : ∀ bs : List Benchmark, bs ≠ [] → ∀ cs : List ServiceCall,
      (∀ c ∈ cs, ∃ names, c = .ages names) → (.names requests ∈ namesCall bs :: cs ↔
        ∃ bs', (Except.ok bs : Except LoadError (List Benchmark)) = .ok bs' ∧ bs' ≠ [] ∧
          requests = bs'.map Benchmark.nameRequest) := by
    intro bs hne cs hcs
    have hages : .names requests ∉ cs := by
      intro hmem
      obtain ⟨names, hnames⟩ := hcs _ hmem
      cases hnames
    rw [List.mem_cons, or_iff_left hages, namesCall, ServiceCall.names.injEq]
    constructor
    · rintro rfl
      exact ⟨bs, rfl, hne, rfl⟩
    · rintro ⟨bs', hbs, -, hrequests⟩
      cases hbs
      exact hrequests
  cases h with
  | failed => simp
  | nothing => simp
  | unnamed hne | unchecked hne => exact hsome _ hne [] (by simp)
  | unaged hne | checked hne => exact hsome _ hne [_] (by simp)

private theorem not_fails_names {bs : List Benchmark} {names : List String} {e : LoadError}
    (h : (l.service.uniqueNames (bs.map Benchmark.nameRequest)).Gives bs.length names) :
    ¬ l.service.Fails (namesCall bs) e := by
  rw [namesCall, Service.Fails, List.length_map]
  exact Response.not_fails_of_gives h

private theorem Course.ages_mem_iff (h : l.Course included result made) (askedFor : List String) :
    .ages askedFor ∈ made ↔
      ∃ bs names, included = .ok bs ∧ bs ≠ [] ∧
        (l.service.uniqueNames (bs.map Benchmark.nameRequest)).Gives bs.length names ∧
        l.ChecksAges bs ∧ askedFor = asked bs names := by
  constructor
  · intro hmem
    cases h with
    | failed | nothing => cases hmem
    | unnamed | unchecked => simp [namesCall] at hmem
    | unaged hne hnames hages | checked hne hnames hages =>
      refine ⟨_, _, rfl, hne, hnames, hages, ?_⟩
      simpa [namesCall] using hmem
  · rintro ⟨bs, names, rfl, hne, hnames, hages, rfl⟩
    cases h with
    | nothing => exact absurd rfl hne
    | unnamed _ hfails => exact absurd hfails (not_fails_names hnames)
    | unchecked _ _ hunchecked => exact absurd hages hunchecked
    | unaged _ hnames' | checked _ hnames' =>
      rw [hnames.unique hnames']
      exact List.mem_cons_of_mem _ List.mem_cons_self

private theorem Course.of_fails (h : l.Course included result made) {c : ServiceCall}
    (hc : c ∈ made)
    {e : LoadError} (hfails : l.service.Fails c e) :
    result = .error e ∧ made.getLast? = some c := by
  cases h with
  | failed | nothing => cases hc
  | unnamed _ hfails' =>
    rw [List.mem_singleton] at hc
    subst hc
    rw [Service.Fails.unique hfails hfails']
    exact ⟨rfl, rfl⟩
  | unchecked _ hnames =>
    rw [List.mem_singleton] at hc
    subst hc
    exact absurd hfails (not_fails_names hnames)
  | unaged _ hnames _ hfails' =>
    rcases List.mem_pair.mp hc with rfl | rfl
    · exact absurd hfails (not_fails_names hnames)
    · rw [Service.Fails.unique hfails hfails']
      exact ⟨rfl, rfl⟩
  | checked _ hnames _ hgiven =>
    rcases List.mem_pair.mp hc with rfl | rfl
    · exact absurd hfails (not_fails_names hnames)
    · exact absurd hfails (Response.not_fails_of_gives hgiven)

private theorem Course.error_iff (h : l.Course included result made) (e : LoadError) :
    result = .error e ↔ included = .error e ∨ ∃ c ∈ made, l.service.Fails c e := by
  constructor
  · rintro rfl
    cases h with
    | failed => exact Or.inl rfl
    | unnamed _ hfails => exact Or.inr ⟨_, List.mem_cons_self, hfails⟩
    | unaged _ _ _ hfails =>
      exact Or.inr ⟨_, List.mem_cons_of_mem _ List.mem_cons_self, hfails⟩
  · rintro (rfl | ⟨c, hc, hfails⟩)
    · cases h
      rfl
    · exact (h.of_fails hc hfails).1

end Courses

/-- A load that nobody cancels asks a service that settles all its calls in turn. -/
theorem load_asks_in_turn (l : Loader) (hservice : l.service.Settles) (tree : FileTree)
    (sequenceId : String) (t : Trace) (ht : t.cancelled = false) :
    ∃ result made log,
      (l.load tree sequenceId).runFrom t = (result, { t with calls := t.calls ++ made, log }) ∧
      l.AsksInTurn (l.included tree sequenceId) result made := by
  obtain ⟨result, made, hcourse, hmakes⟩ := load_course l hservice tree sequenceId
  obtain ⟨log, hrun⟩ := hmakes t ht
  exact ⟨result, made, log, hrun,
    { order := hcourse.order
      names := hcourse.names_mem_iff
      ages := hcourse.ages_mem_iff
      fails := fun _ hc _ hfails => hcourse.of_fails hc hfails
      error := hcourse.error_iff }⟩

theorem load_sample_asks_in_turn :
    Sample.ageless.Settles ∧ ∃ result made log,
      ((Sample.loader Sample.ageless).load Sample.tree "seq").runFrom ⟨false, [], []⟩ =
        (result, ⟨false, made, log⟩) ∧
      (Sample.loader Sample.ageless).AsksInTurn
        ((Sample.loader Sample.ageless).included Sample.tree "seq") result made := by
  have hservice : Sample.ageless.Settles :=
    { names := fun _ => ⟨rfl, nofun⟩
      ages := fun _ => ⟨rfl, nofun⟩ }
  exact ⟨hservice, load_asks_in_turn (Sample.loader Sample.ageless) hservice Sample.tree "seq"
    ⟨false, [], []⟩ rfl⟩

end RunPlan.Loader
